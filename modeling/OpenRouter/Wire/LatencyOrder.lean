import OpenRouter.Backend.Ranking
import OpenRouter.Gateway.Adapter

/-!
# LatencyOrder — the fastest target first, by latency and by score

The backend's `LatencyStrategy` ranks a pool by its latencies; the gateway's ranks it by the scores
that `ProviderScores` makes of them.  A score is zero from two seconds on, so the two agree on a
pool exactly when its slower entries are in order already: `fastestFirst_iff`.
-/

namespace OpenRouter
namespace Wire

open Backend.Routing (Candidate Disorder PoolEntry Raised RoutingConfig decide_rank_le inOrder
  latencyStrategy lt_iff_rank rank sortedBy stringField)
open Base
open Gateway (Target)

/-! ## `ProviderScores` -/

structure ProviderScore where
  model : String
  provider : String
  score : ℚ
  lastUpdatedUnix : ℕ

/-- `max(0.0, min(1.0, 1.0 - latency_p50_ms / 2000.0))`; a comparison with a NaN fails. -/
def scoreOf : PyNumber → ℚ
  | .finite latency => max 0 (min 1 (1 - latency / 2000))
  | .inf negative => if negative then 1 else 0
  | .nan _ => 1

/-- The score of one entry; the names of the response are text. -/
def providerScore (e : PoolEntry) : Except Raised ProviderScore :=
  match stringField e.model, stringField e.provider with
  | some model, some provider =>
      .ok
        { model := model
          provider := provider
          score := scoreOf e.latencyP50Ms
          lastUpdatedUnix := 0 }
  | _, _ => .error .notText

/-- `RoutingServicer.ProviderScores`; a request without models asks for all. -/
def providerScores (cfg : RoutingConfig) (models : List String) :
    Except Raised (List ProviderScore) :=
  (cfg.pool.filter fun e => models.isEmpty || models.any fun m => e.model.isStr m).mapM
    providerScore

/-! ## The strategy of the gateway -/

/-- `ScoreLookup`: the score of a provider and a model. -/
abbrev ScoreLookup : Type :=
  String → String → ℚ

/-- `Latency.Order`: `sort.SliceStable`, with the higher score before the lower one. -/
def order (scores : ScoreLookup) (candidates : List Target) : List Target :=
  candidates.mergeSort fun t u =>
    !decide (scores u.provider u.model > scores t.provider t.model)

/-- An entry of the pool as a target of the gateway. -/
def targetOf (e : PoolEntry) : Target where
  provider := (stringField e.provider).getD ""
  model := (stringField e.model).getD ""

/-- The lookup returns what the response has. -/
def Returns (scores : ScoreLookup) (reported : List ProviderScore) : Prop :=
  ∀ s ∈ reported, scores s.provider s.model = s.score

/-- The gateway lists the targets of a pool by non-decreasing latency, as the backend does. -/
def FastestFirst (dis : Disorder) (scores : ScoreLookup) (pool : List PoolEntry) : Prop :=
  ∃ es : List PoolEntry, es.Perm pool ∧
    order scores (pool.map targetOf) = es.map targetOf ∧
    es.Pairwise (fun e e' => e'.latencyP50Ms.lt e.latencyP50Ms = false) ∧
    (latencyStrategy dis).ranked (pool.map PoolEntry.toCandidate) =
      .ok (es.map PoolEntry.toCandidate)

/-- The entries of two seconds and more are in order in the pool. -/
def SlowInOrder (pool : List PoolEntry) : Prop :=
  (pool.filter fun e => !e.latencyP50Ms.lt (.finite 2000)).Pairwise fun e e' =>
    e'.latencyP50Ms.lt e.latencyP50Ms = false

/-- A latency is a number that is not negative. -/
def IsLatency (x : PyNumber) : Prop :=
  x.isNan = false ∧ x.lt (.finite 0) = false

/-! ## Scores and latencies -/

/-- The latency that a score tells. -/
def capped : PyNumber → ℚ
  | .finite latency => min latency 2000
  | _ => 2000

theorem isLatency_cases {x : PyNumber} (h : IsLatency x) :
    (∃ latency : ℚ, 0 ≤ latency ∧ x = .finite latency) ∨ x = .inf false := by
  rcases h with ⟨hnan, hneg⟩
  cases x with
  | finite latency => exact .inl ⟨latency, by simpa [PyNumber.lt] using hneg, rfl⟩
  | inf negative =>
      cases negative with
      | true => simp [PyNumber.lt] at hneg
      | false => exact .inr rfl
  | nan _ => simp [PyNumber.isNan] at hnan

/-- A score falls with the latency up to two seconds, and stays. -/
theorem scoreOf_eq {x : PyNumber} (h : IsLatency x) : scoreOf x = 1 - capped x / 2000 := by
  rcases isLatency_cases h with ⟨latency, hnonneg, rfl⟩ | rfl
  · have hone : 1 - latency / 2000 ≤ 1 := by
      have hdiv : 0 ≤ latency / 2000 := by positivity
      linarith
    rw [scoreOf, capped, min_eq_right hone]
    rcases le_total latency 2000 with hle | hle
    · rw [min_eq_left hle, max_eq_right]
      have hdiv : latency / 2000 ≤ 1 := by
        rw [div_le_one (by norm_num)]
        exact hle
      linarith
    · rw [min_eq_right hle, max_eq_left]
      · norm_num
      · have hdiv : 1 ≤ latency / 2000 := by
          rw [one_le_div (by norm_num)]
          exact hle
        linarith
  · norm_num [scoreOf, capped]

theorem scoreOf_le_iff {x y : PyNumber} (hx : IsLatency x) (hy : IsLatency y) :
    scoreOf y ≤ scoreOf x ↔ capped x ≤ capped y := by
  rw [scoreOf_eq hx, scoreOf_eq hy]
  constructor
  · intro h
    linarith
  · intro h
    linarith

theorem rank_le_iff {x y : PyNumber} (hx : IsLatency x) (hy : IsLatency y) :
    rank x ≤ rank y ↔ y.lt x = false := by
  rw [← not_lt, ← lt_iff_rank hy.1 hx.1, Bool.not_eq_true]

theorem capped_le {x : PyNumber} (hx : IsLatency x) : capped x ≤ 2000 := by
  rcases isLatency_cases hx with ⟨latency, -, rfl⟩ | rfl
  · exact min_le_right _ _
  · exact le_rfl

/-- What the capped latencies tell apart, the latencies do. -/
theorem rank_lt_of_capped_lt {x y : PyNumber} (hx : IsLatency x) (hy : IsLatency y)
    (h : capped x < capped y) : rank x < rank y := by
  have hshort : capped x < 2000 := h.trans_le (capped_le hy)
  rw [← lt_iff_rank hx.1 hy.1]
  rcases isLatency_cases hx with ⟨a, -, rfl⟩ | rfl
  · have ha : min a 2000 = a := min_eq_left (le_of_lt (by simpa [capped] using hshort))
    rcases isLatency_cases hy with ⟨b, -, rfl⟩ | rfl
    · rw [capped, capped, ha] at h
      exact decide_eq_true (lt_of_lt_of_le h (min_le_left _ _))
    · rfl
  · exact absurd hshort (lt_irrefl _)

/-- The capped latency is that of an entry of two seconds and more. -/
theorem capped_eq_iff {x : PyNumber} (hx : IsLatency x) :
    capped x = 2000 ↔ (!x.lt (.finite 2000)) = true := by
  rcases isLatency_cases hx with ⟨latency, -, rfl⟩ | rfl
  · simp [capped, PyNumber.lt]
  · simp [capped, PyNumber.lt]

/-- Latencies with the same cap are the same below two seconds. -/
theorem rank_eq_of_capped_eq {x y : PyNumber} (hx : IsLatency x) (hy : IsLatency y)
    (h : capped x = capped y) (hshort : capped x ≠ 2000) : rank x = rank y := by
  rcases isLatency_cases hx with ⟨a, -, rfl⟩ | rfl
  · rcases isLatency_cases hy with ⟨b, -, rfl⟩ | rfl
    · have hmin : ∀ c : ℚ, min c 2000 ≠ 2000 → min c 2000 = c := fun c hc =>
        (min_choice c 2000).resolve_right hc
      have ha := hmin a hshort
      have hb := hmin b fun hlong => hshort (h.trans hlong)
      simp only [capped, ha, hb] at h
      rw [h]
    · exact absurd h hshort
  · exact absurd rfl hshort

/-- Ties of the capped latencies are in order if those of two seconds and more are. -/
theorem tie_iff {x y : PyNumber} (hx : IsLatency x) (hy : IsLatency y) :
    (capped x = capped y → rank x ≤ rank y) ↔
      ((!x.lt (.finite 2000)) = true → (!y.lt (.finite 2000)) = true → y.lt x = false) := by
  rw [← capped_eq_iff hx, ← capped_eq_iff hy, ← rank_le_iff hx hy]
  constructor
  · intro h hslow hslow'
    exact h (hslow.trans hslow'.symm)
  · intro h htie
    by_cases hslow : capped x = 2000
    · exact h hslow (htie ▸ hslow)
    · exact (rank_eq_of_capped_eq hx hy htie hslow).le

/-! ## The two orders -/

theorem eq_of_map_eq {α β : Type} {f : α → β} {l l' : List α}
    (hinj : ∀ a ∈ l, ∀ b ∈ l', f a = f b → a = b) (h : l.map f = l'.map f) : l = l' := by
  induction l generalizing l' with
  | nil =>
      exact (List.map_eq_nil_iff.1 h.symm).symm
  | cons a l ih =>
      cases l' with
      | nil => cases h
      | cons b l' =>
          rw [List.map_cons, List.map_cons, List.cons.injEq] at h
          have hhead := hinj a List.mem_cons_self b List.mem_cons_self h.1
          have htail := ih (fun c hc d hd => hinj c (List.mem_cons_of_mem _ hc) d
            (List.mem_cons_of_mem _ hd)) h.2
          rw [hhead, htail]

variable {pool : List PoolEntry} {dis : Disorder} {scores : ScoreLookup}

/-- What a response reports of an entry. -/
theorem mem_of_mapM_ok {es : List PoolEntry} {reported : List ProviderScore}
    (h : es.mapM providerScore = .ok reported) {e : PoolEntry} (he : e ∈ es) :
    ∃ s ∈ reported, providerScore e = .ok s := by
  induction es generalizing reported with
  | nil =>
      cases he
  | cons e' es ih =>
      rw [List.mapM_cons] at h
      cases hfirst : providerScore e' with
      | error exc =>
          rw [hfirst] at h
          cases h
      | ok s =>
          rw [hfirst] at h
          cases hrest : es.mapM providerScore with
          | error exc =>
              simp only [hrest] at h
              cases h
          | ok reported' =>
              simp only [hrest] at h
              cases h
              rcases List.mem_cons.1 he with rfl | hmem
              · exact ⟨s, List.mem_cons_self, hfirst⟩
              · rcases ih hrest hmem with ⟨s', hs', hscore⟩
                exact ⟨s', List.mem_cons_of_mem _ hs', hscore⟩

/-- The score that the gateway looks up for an entry is the one of its latency. -/
theorem score_of_returns {cfg : RoutingConfig} {reported : List ProviderScore}
    (hreported : providerScores cfg [] = .ok reported) (hscores : Returns scores reported)
    {e : PoolEntry} (he : e ∈ cfg.pool) :
    scores (targetOf e).provider (targetOf e).model = scoreOf e.latencyP50Ms := by
  have hall : cfg.pool.filter (fun e => ([] : List String).isEmpty ||
      ([] : List String).any fun m => e.model.isStr m) = cfg.pool :=
    List.filter_eq_self.2 fun _ _ => rfl
  rw [providerScores, hall] at hreported
  rcases mem_of_mapM_ok hreported he with ⟨s, hs, hscore⟩
  have hlookup := hscores s hs
  unfold providerScore at hscore
  split at hscore
  · rename_i model provider hmodel hprovider
    cases hscore
    simpa [targetOf, hmodel, hprovider] using hlookup
  · cases hscore

/-- The gateway sorts by the capped latencies. -/
theorem order_eq (hscores : ∀ e ∈ pool, scores (targetOf e).provider (targetOf e).model =
      scoreOf e.latencyP50Ms) (hlatency : ∀ e ∈ pool, IsLatency e.latencyP50Ms) :
    order scores (pool.map targetOf) =
      (pool.mergeSort fun e e' =>
        decide (capped e.latencyP50Ms ≤ capped e'.latencyP50Ms)).map targetOf := by
  rw [order, List.map_mergeSort]
  intro e he e' he'
  rw [hscores e he, hscores e' he', Bool.eq_iff_iff, decide_eq_true_iff, Bool.not_eq_true',
    decide_eq_false_iff_not, gt_iff_lt, not_lt, scoreOf_le_iff (hlatency e he) (hlatency e' he')]

/-- The backend sorts by the latencies. -/
theorem ranked_eq (hlatency : ∀ e ∈ pool, IsLatency e.latencyP50Ms) :
    (latencyStrategy dis).ranked (pool.map PoolEntry.toCandidate) =
      .ok ((pool.mergeSort fun e e' =>
        decide (rank e.latencyP50Ms ≤ rank e'.latencyP50Ms)).map PoolEntry.toCandidate) := by
  have hnan : (pool.map PoolEntry.toCandidate).any (fun c => c.latencyP50Ms.isNan) = false := by
    rw [List.any_map, List.any_eq_false]
    intro e he
    simpa [PoolEntry.toCandidate] using (hlatency e he).1
  simp only [latencyStrategy, sortedBy, hnan, Bool.false_eq_true, if_false]
  rw [List.map_mergeSort]
  intro e he e' he'
  exact decide_rank_le (hlatency e' he').1 (hlatency e he).1

/-- The gateway lists a pool by non-decreasing latency, and as the backend does, exactly when the
entries of two seconds and more are in order in it. -/
theorem fastestFirst_iff {cfg : RoutingConfig} {reported : List ProviderScore}
    (hreported : providerScores cfg [] = .ok reported) (hscores : Returns scores reported)
    (hlatency : ∀ e ∈ cfg.pool, IsLatency e.latencyP50Ms)
    (hdistinct : (cfg.pool.map targetOf).Nodup) :
    FastestFirst dis scores cfg.pool ↔ SlowInOrder cfg.pool := by
  have hnodup : cfg.pool.Nodup := hdistinct.of_map
  have horder := order_eq (fun e he => score_of_returns hreported hscores he) hlatency
  -- The gateway sorts by a coarser key: its sort is a sort by latency if the ties are in order.
  have hcoarse : ∀ e ∈ cfg.pool, ∀ e' ∈ cfg.pool,
      capped e.latencyP50Ms < capped e'.latencyP50Ms →
        rank e.latencyP50Ms < rank e'.latencyP50Ms :=
    fun e he e' he' => rank_lt_of_capped_lt (hlatency e he) (hlatency e' he')
  have hties : SlowInOrder cfg.pool ↔ cfg.pool.Pairwise fun e e' =>
      capped e.latencyP50Ms = capped e'.latencyP50Ms →
        rank e.latencyP50Ms ≤ rank e'.latencyP50Ms := by
    rw [SlowInOrder, List.pairwise_filter]
    refine List.Pairwise.iff_of_mem fun he he' => ?_
    exact (tie_iff (hlatency _ he) (hlatency _ he')).symm
  -- Members of a list of these entries compare by rank.
  have hrank : ∀ {es : List PoolEntry}, es.Perm cfg.pool →
      (es.Pairwise (fun e e' => e'.latencyP50Ms.lt e.latencyP50Ms = false) ↔
        es.Pairwise fun e e' => rank e.latencyP50Ms ≤ rank e'.latencyP50Ms) := fun hperm =>
    List.Pairwise.iff_of_mem fun he he' => (rank_le_iff (hlatency _ (hperm.mem_iff.1 he))
      (hlatency _ (hperm.mem_iff.1 he'))).symm
  rw [hties]
  constructor
  · rintro ⟨es, hperm, hes, hsorted, -⟩
    -- Distinct names: the list of targets tells the list of entries.
    have hsort : cfg.pool.mergeSort (fun e e' =>
        decide (capped e.latencyP50Ms ≤ capped e'.latencyP50Ms)) = es := by
      rw [horder] at hes
      refine eq_of_map_eq (fun e he e' he' => ?_) hes
      exact List.inj_on_of_nodup_map hdistinct (List.mem_mergeSort.1 he) (hperm.mem_iff.1 he')
    rw [← pairwise_mergeSort_coarse_iff hnodup hcoarse, hsort]
    exact (hrank hperm).1 hsorted
  · intro hslow
    refine ⟨_, List.mergeSort_perm _ _, horder, (hrank (List.mergeSort_perm _ _)).2 ?_, ?_⟩
    · exact (pairwise_mergeSort_coarse_iff hnodup hcoarse).2 hslow
    · rw [ranked_eq hlatency, (mergeSort_coarse_eq_iff hnodup hcoarse).2 hslow]

/-! ## Pools -/

/-- A pool of models of one provider, with these latencies. -/
def poolOf (latencies : List (String × ℚ)) : RoutingConfig where
  defaultStrategy := .str "latency"
  fallbackMax := 2
  pool := latencies.map fun p =>
    { model := .str p.1
      provider := .str "local"
      pricingPerMillion := .finite 1
      qualityScore := .finite 1
      latencyP50Ms := .finite p.2
      capabilities := []
      geosAllowed := []
      residency := [] }
  qualityFloor := .finite 0
  latencyMaxMs := .finite 5000

/-- The scores of a response, by provider and model. -/
def lookupIn (reported : List ProviderScore) : ScoreLookup := fun provider model =>
  ((reported.find? fun s => s.provider = provider && s.model = model).map
    ProviderScore.score).getD 0

/-- Two models that take more than two seconds, the slower one first in the pool. -/
def slowPool : RoutingConfig :=
  poolOf [("llama-405b", 4000), ("llama-70b", 2500)]

/-- What `ProviderScores` reports of them. -/
def slowScores : List ProviderScore :=
  [{ model := "llama-405b"
     provider := "local"
     score := scoreOf (.finite 4000)
     lastUpdatedUnix := 0 },
    { model := "llama-70b"
      provider := "local"
      score := scoreOf (.finite 2500)
      lastUpdatedUnix := 0 }]

/-- Both have the score zero, and the gateway leaves the slower one in front. -/
theorem slow_pool_not_fastest_first :
    providerScores slowPool [] = .ok slowScores ∧ Returns (lookupIn slowScores) slowScores ∧
      slowScores.map ProviderScore.score = [0, 0] ∧
      order (lookupIn slowScores) (slowPool.pool.map targetOf) = slowPool.pool.map targetOf ∧
      ¬ FastestFirst inOrder (lookupIn slowScores) slowPool.pool := by
  have horder : order (lookupIn slowScores) (slowPool.pool.map targetOf) =
      slowPool.pool.map targetOf :=
    List.mergeSort_of_pairwise (by decide +kernel)
  refine ⟨rfl, ?_, by decide +kernel, horder, ?_⟩
  · intro s hs
    rcases List.mem_cons.1 hs with rfl | hrest
    · decide +kernel
    · cases List.mem_singleton.1 hrest
      decide +kernel
  · rintro ⟨es, hperm, hes, hsorted, -⟩
    have hnodup : (slowPool.pool.map targetOf).Nodup := by decide +kernel
    have hpool : slowPool.pool = es := eq_of_map_eq
      (fun e he e' he' => List.inj_on_of_nodup_map hnodup he (hperm.mem_iff.1 he'))
      (horder.symm.trans hes)
    rw [← hpool] at hsorted
    have hpair := List.pairwise_iff_getElem.1 hsorted 0 1 (by decide) (by decide) Nat.one_pos
    exact absurd hpair (by decide +kernel)

/-- The faster one first in the pool: the two sides agree. -/
theorem fast_pool_fastest_first :
    ∃ reported scores, providerScores (poolOf [("llama-8b", 90), ("llama-70b", 2500)]) [] =
        .ok reported ∧ Returns scores reported ∧
      FastestFirst inOrder scores (poolOf [("llama-8b", 90), ("llama-70b", 2500)]).pool := by
  let cfg := poolOf [("llama-8b", 90), ("llama-70b", 2500)]
  let reported : List ProviderScore :=
    [{ model := "llama-8b"
       provider := "local"
       score := scoreOf (.finite 90)
       lastUpdatedUnix := 0 },
      { model := "llama-70b"
        provider := "local"
        score := scoreOf (.finite 2500)
        lastUpdatedUnix := 0 }]
  have hreported : providerScores cfg [] = .ok reported := rfl
  have hscores : Returns (lookupIn reported) reported := by
    intro s hs
    rcases List.mem_cons.1 hs with rfl | hrest
    · decide +kernel
    · cases List.mem_singleton.1 hrest
      decide +kernel
  have hlatency : ∀ e ∈ cfg.pool, IsLatency e.latencyP50Ms := by
    intro e he
    rcases List.mem_cons.1 he with rfl | hrest
    · exact ⟨rfl, by decide +kernel⟩
    · cases List.mem_singleton.1 hrest
      exact ⟨rfl, by decide +kernel⟩
  refine ⟨reported, lookupIn reported, hreported, hscores,
    (fastestFirst_iff hreported hscores hlatency (by decide +kernel)).2 ?_⟩
  have hslow : cfg.pool.filter (fun e => !e.latencyP50Ms.lt (.finite 2000)) =
      [cfg.pool.get ⟨1, Nat.one_lt_two⟩] := by
    rfl
  rw [SlowInOrder, hslow]
  exact List.pairwise_singleton _ _

end Wire
end OpenRouter
