import Mathlib.Order.WithBot
import OpenRouter.Backend.Routing
import OpenRouter.Base.StableSort

/-!
# Ranking — which targets a response names, and when there is one

`IsRanking` says, by positions of the pool, in what order a strategy wants the eligible entries.
`ranks_iff` says for which configs a response names the first of them, and `returns_iff` for which
ones `ResolveModel` returns at all.
-/

namespace OpenRouter
namespace Backend
namespace Routing

open Base

/-! ## The order of the keys -/

/-- The place of a number that is not a NaN between the infinities. -/
def rank : PyNumber → WithBot (WithTop ℚ)
  | .finite x => ((x : WithTop ℚ) : WithBot (WithTop ℚ))
  | .inf true => ⊥
  | .inf false => ((⊤ : WithTop ℚ) : WithBot (WithTop ℚ))
  | .nan _ => ⊥

variable {x y : PyNumber}

theorem lt_iff_rank (hx : x.isNan = false) (hy : y.isNan = false) :
    x.lt y = true ↔ rank x < rank y := by
  have htop : ∀ q : ℚ, ((q : WithTop ℚ) : WithBot (WithTop ℚ)) < ⊤ := fun q =>
    WithBot.coe_lt_coe.2 (WithTop.coe_lt_top q)
  rcases x with x | (_ | _) | _ <;> rcases y with y | (_ | _) | _ <;>
    simp [PyNumber.lt, PyNumber.isNan, rank, htop] at hx hy ⊢

theorem decide_rank_le (hx : x.isNan = false) (hy : y.isNan = false) :
    decide (rank y ≤ rank x) = !x.lt y := by
  rw [Bool.eq_iff_iff, decide_eq_true_iff, Bool.not_eq_true', ← Bool.not_eq_true,
    lt_iff_rank hx hy, not_lt]

theorem eq_iff_rank (hx : x.isNan = false) (hy : y.isNan = false) :
    x.eq y = true ↔ rank x = rank y := by
  rcases x with x | (_ | _) | _ <;> rcases y with y | (_ | _) | _ <;>
    simp [PyNumber.eq, PyNumber.agrees, PyNumber.isNan, rank] at hx hy ⊢

/-- Nothing compares with a NaN. -/
theorem not_compares_of_isNan (h : x.isNan = true) (y : PyNumber) :
    x.lt y = false ∧ y.lt x = false ∧ x.eq y = false ∧ y.eq x = false := by
  cases x with
  | nan _ => cases y <;> simp [PyNumber.lt, PyNumber.eq, PyNumber.agrees, PyNumber.isNan]
  | finite _ => cases h
  | inf _ => cases h

/-! ## What a strategy wants -/

/-- The strategies of the default registry. -/
inductive Strategy
  | cost
  | latency
  | quality
  deriving DecidableEq

namespace Strategy

def name : Strategy → String
  | cost => "cost"
  | latency => "latency"
  | quality => "quality"

def key : Strategy → Candidate → PyNumber
  | cost => Candidate.pricingPerMillion
  | latency => Candidate.latencyP50Ms
  | quality => Candidate.qualityScore

/-- More is better. -/
def descending : Strategy → Bool
  | quality => true
  | _ => false

def registered (dis : Disorder) : Strategy → RoutingStrategy
  | cost => costStrategy dis
  | latency => latencyStrategy dis
  | quality => qualityStrategy dis

/-- The first key comes before the second. -/
def Better (s : Strategy) (x y : PyNumber) : Prop :=
  if s.descending then y.lt x = true else x.lt y = true

/-- The entry at `i` is to be named before the one at `j`. -/
def Ahead (s : Strategy) (pool : List PoolEntry) (i j : ℕ) : Prop :=
  ∃ e e', pool[i]? = some e ∧ pool[j]? = some e' ∧
    (s.Better (s.key e.toCandidate) (s.key e'.toCandidate) ∨
      (s.key e.toCandidate).eq (s.key e'.toCandidate) = true ∧ i < j)

end Strategy

/-- The positions of the eligible entries, each once, in the order of a strategy. -/
structure IsRanking (s : Strategy) (cfg : RoutingConfig) (hints : RequestHints)
    (is : List ℕ) : Prop where
  mem_iff : ∀ i, i ∈ is ↔ ∃ e, cfg.pool[i]? = some e ∧ Admits cfg hints e
  nodup : is.Nodup
  ahead : is.Pairwise (s.Ahead cfg.pool)

/-- The response names the first entries of a ranking: the primary and `fallback_max` others. -/
def Names (cfg : RoutingConfig) (is : List ℕ) (response : ResolveModelResponse) : Prop :=
  response.targets.map some =
    (is.take (1 + cfg.fallbackMax.toNat)).map fun i =>
      cfg.pool[i]?.bind fun e => fallbackTarget e.toCandidate

/-! ## The sort -/

variable {cfg : RoutingConfig} {hints : RequestHints} {s : Strategy} {dis : Disorder}

/-- The eligible entries with their positions. -/
def eligible (cfg : RoutingConfig) (hints : RequestHints) : List (PoolEntry × ℕ) :=
  cfg.pool.zipIdx.filter fun p => cfg.passes hints p.1

theorem mem_eligible_iff {e : PoolEntry} {i : ℕ} :
    (e, i) ∈ eligible cfg hints ↔ cfg.pool[i]? = some e ∧ Admits cfg hints e := by
  rw [eligible, List.mem_filter, List.mem_zipIdx_iff_getElem?, passes_iff]

theorem filter_eq_map_eligible :
    cfg.filter hints = (eligible cfg hints).map fun p => p.1.toCandidate := by
  have hfst : cfg.pool.zipIdx.map Prod.fst = cfg.pool := List.zipIdx_map_fst 0 cfg.pool
  have hfilter : cfg.pool.filter (cfg.passes hints) = (eligible cfg hints).map Prod.fst := by
    conv_lhs => rw [← hfst, List.filter_map]
    rfl
  rw [RoutingConfig.filter, hfilter, List.map_map]
  rfl

theorem length_filter : (cfg.filter hints).length = (eligible cfg hints).length := by
  rw [filter_eq_map_eligible, List.length_map]

theorem pairwise_eligible : (eligible cfg hints).Pairwise fun p q => p.2 < q.2 :=
  (pairwise_zipIdx _ _).filter _

/-- The eligible positions, each once. -/
theorem nodup_positions : ((eligible cfg hints).map Prod.snd).Nodup := by
  refine List.pairwise_map.2 (pairwise_eligible.imp ?_)
  intro p q hlt
  exact Nat.ne_of_lt hlt

theorem mem_positions_iff {i : ℕ} :
    i ∈ (eligible cfg hints).map Prod.snd ↔ ∃ e, cfg.pool[i]? = some e ∧ Admits cfg hints e := by
  rw [List.mem_map]
  constructor
  · rintro ⟨⟨e, i⟩, he, rfl⟩
    exact ⟨e, mem_eligible_iff.1 he⟩
  · rintro ⟨e, he⟩
    exact ⟨(e, i), mem_eligible_iff.2 he, rfl⟩

/-- A sort of entries without a NaN brings them into the order of the strategy. -/
theorem exists_sorted (dis : Disorder) (s : Strategy) {ps : List (PoolEntry × ℕ)}
    (hps : ps.Pairwise fun p q => p.2 < q.2)
    (hnan : ∀ p ∈ ps, (s.key p.1.toCandidate).isNan = false) :
    ∃ qs : List (PoolEntry × ℕ), qs.Perm ps ∧
      sortedBy dis s.key s.descending (ps.map fun p => p.1.toCandidate) =
        qs.map (fun p => p.1.toCandidate) ∧
      qs.Pairwise fun p q =>
        s.Better (s.key p.1.toCandidate) (s.key q.1.toCandidate) ∨
          (s.key p.1.toCandidate).eq (s.key q.1.toCandidate) = true ∧ p.2 < q.2 := by
  let key : PoolEntry × ℕ → WithBot (WithTop ℚ) := fun p => rank (s.key p.1.toCandidate)
  have hany : ((ps.map fun p => p.1.toCandidate).any fun c => (s.key c).isNan) = false := by
    rw [List.any_eq_false]
    intro c hc
    rcases List.mem_map.1 hc with ⟨p, hp, rfl⟩
    rw [hnan p hp]
    exact Bool.false_ne_true
  cases hdesc : s.descending with
  | false =>
      rcases exists_mergeSort_of_key key (fun p => p.1.toCandidate)
        (fun c c' => !(s.key c').lt (s.key c)) hps
        (fun p hp q hq => (decide_rank_le (hnan q hq) (hnan p hp)).symm) with
        ⟨qs, hperm, hsorted, hpairs⟩
      refine ⟨qs, hperm, ?_, hpairs.imp_of_mem fun {p q} hp hq h => ?_⟩
      · rw [sortedBy, hany, if_neg Bool.false_ne_true]
        exact hsorted
      · have hp' := hnan p (hperm.mem_iff.1 hp)
        have hq' := hnan q (hperm.mem_iff.1 hq)
        simpa only [Strategy.Better, hdesc, Bool.false_eq_true, if_false, lt_iff_rank hp' hq',
          eq_iff_rank hp' hq'] using h
  | true =>
      -- Descending keys ascend in the dual order.
      rcases exists_mergeSort_of_key (fun p => OrderDual.toDual (key p))
        (fun p => p.1.toCandidate) (fun c c' => !(s.key c).lt (s.key c')) hps
        (fun p hp q hq => (decide_rank_le (hnan p hp) (hnan q hq)).symm) with
        ⟨qs, hperm, hsorted, hpairs⟩
      refine ⟨qs, hperm, ?_, hpairs.imp_of_mem fun {p q} hp hq h => ?_⟩
      · rw [sortedBy, hany, if_neg Bool.false_ne_true]
        exact hsorted
      · have hp' := hnan p (hperm.mem_iff.1 hp)
        have hq' := hnan q (hperm.mem_iff.1 hq)
        simpa only [Strategy.Better, hdesc, if_true, lt_iff_rank hq' hp', eq_iff_rank hp' hq',
          OrderDual.toDual_lt_toDual, OrderDual.toDual_inj] using h

/-! ## The registered strategies -/

theorem get_registered (dis : Disorder) (s : Strategy) :
    (StrategyRegistry.default dis).get (.str s.name) = .ok (s.registered dis) := by
  cases s <;> rfl

theorem exists_of_get {name : Yaml} {strategy : RoutingStrategy}
    (h : (StrategyRegistry.default dis).get name = .ok strategy) :
    ∃ s : Strategy, name = .str s.name ∧ strategy = s.registered dis := by
  unfold StrategyRegistry.get at h
  split at h
  · rename_i found hfind
    cases h
    have hstr : name.isStr strategy.name = true := by
      simpa using List.find?_some hfind
    have hname : name = .str strategy.name := by
      cases name with
      | str text => simpa [Yaml.isStr] using hstr
      | _ => cases hstr
    have hmem := List.mem_of_find?_eq_some hfind
    simp only [StrategyRegistry.default, List.mem_cons, List.not_mem_nil, or_false] at hmem
    rcases hmem with rfl | rfl | rfl
    · exact ⟨.cost, hname, rfl⟩
    · exact ⟨.latency, hname, rfl⟩
    · exact ⟨.quality, hname, rfl⟩
  · cases h

theorem name_registered (dis : Disorder) (s : Strategy) : (s.registered dis).name = s.name := by
  cases s <;> rfl

/-- Only the prices are refused for a NaN. -/
theorem ranked_registered (dis : Disorder) (s : Strategy) (cs : List Candidate) :
    (s.registered dis).ranked cs =
      if s = .cost ∧ 2 ≤ cs.length ∧ cs.any (fun c => (s.key c).isNan) = true then
        .error .invalidOperation
      else .ok (sortedBy dis s.key s.descending cs) := by
  cases s <;> simp [Strategy.registered, costStrategy, latencyStrategy, qualityStrategy,
    Strategy.key, Strategy.descending]

/-! ## Responses -/

theorem mapM_eq_some_iff {α β : Type} {f : α → Option β} {xs : List α} {ys : List β} :
    xs.mapM f = some ys ↔ ys.map some = xs.map f := by
  induction xs generalizing ys with
  | nil => cases ys <;> simp
  | cons x xs ih =>
      rw [List.mapM_cons]
      cases hx : f x with
      | none => cases ys <;> simp [hx]
      | some y =>
          cases hxs : xs.mapM f with
          | none =>
              have hne : ∀ ys : List β, ys.map some ≠ xs.map f := by
                intro ys hys
                rw [ih.2 hys] at hxs
                cases hxs
              cases ys <;> simp [hx, hne]
          | some zs =>
              have hzs := ih.1 hxs
              cases ys with
              | nil => simp
              | cons y' ys =>
                  rw [List.map_cons, List.map_cons, hx, ← hzs]
                  simp [eq_comm, List.map_inj_right]

/-- The candidates that a response names. -/
def listed (fallbackMax : ℤ) : List Candidate → List Candidate
  | [] => []
  | c :: rest => c :: sliceTo rest fallbackMax

/-- The response to a decision names these candidates, if each can be named. -/
theorem respond_eq_some_iff {c : Candidate} {rest : List Candidate} {strategy : String}
    {response : ResolveModelResponse} :
    respond cfg { primary := c, fallback := rest, strategy := strategy } = some response ↔
      response.strategyUsed = strategy ∧
        response.targets.map some = (listed cfg.fallbackMax (c :: rest)).map fallbackTarget := by
  simp only [respond, listed, ResolveModelResponse.targets, List.map_cons, List.cons.injEq]
  rw [← mapM_eq_some_iff]
  cases hprimary : fallbackTarget c with
  | none => simp
  | some primary =>
      cases hchain : (sliceTo rest cfg.fallbackMax).mapM fallbackTarget with
      | none => simp
      | some chain =>
          rcases response with ⟨model, provider, fallbackChain, used⟩
          rcases primary with ⟨model', provider'⟩
          simp only [Option.bind_eq_bind, Option.bind_some, Option.some.injEq,
            ResolveModelResponse.mk.injEq, FallbackTarget.mk.injEq]
          constructor
          · rintro ⟨rfl, rfl, rfl, rfl⟩
            exact ⟨rfl, ⟨rfl, rfl⟩, rfl⟩
          · rintro ⟨rfl, ⟨rfl, rfl⟩, rfl⟩
            exact ⟨rfl, rfl, rfl, rfl⟩

theorem exists_respond_iff {c : Candidate} {rest : List Candidate} {strategy : String} :
    (∃ response,
        respond cfg { primary := c, fallback := rest, strategy := strategy } = some response) ↔
      ∀ c' ∈ listed cfg.fallbackMax (c :: rest), (fallbackTarget c').isSome = true := by
  constructor
  · rintro ⟨response, h⟩ c' hc'
    have hmem : fallbackTarget c' ∈ response.targets.map some := by
      rw [(respond_eq_some_iff.1 h).2]
      exact List.mem_map_of_mem hc'
    rcases List.mem_map.1 hmem with ⟨t, -, ht⟩
    rw [← ht]
    rfl
  · intro h
    have hall : ∀ cs : List Candidate, (∀ c' ∈ cs, (fallbackTarget c').isSome = true) →
        ∃ ts : List FallbackTarget, ts.map some = cs.map fallbackTarget := by
      intro cs hcs
      refine ⟨cs.filterMap fallbackTarget, ?_⟩
      rw [List.map_filterMap_some_eq_filter_map_isSome, List.filter_eq_self]
      exact List.forall_mem_map.2 hcs
    rcases hall _ h with ⟨_ | ⟨primary, chain⟩, hts⟩
    · cases hts
    · exact ⟨{ primaryModel := primary.model, primaryProvider := primary.provider
               fallbackChain := chain, strategyUsed := strategy },
        respond_eq_some_iff.2 ⟨rfl, hts⟩⟩

/-- When `ResolveModel` returns a response that is no sentinel, and which. -/
theorem resolveModel_eq_ok_iff (hname : cfg.defaultStrategy = .str s.name)
    (hleft : (cfg.filter hints).isEmpty = false) {response : ResolveModelResponse} :
    resolveModel (.default dis) cfg hints = .ok response ↔
      ∃ c rest, (s.registered dis).ranked (cfg.filter hints) = .ok (c :: rest) ∧
        respond cfg { primary := c, fallback := rest, strategy := s.name } = some response := by
  simp only [resolveModel, hleft, Bool.false_eq_true, if_false, hname, get_registered,
    RoutingStrategy.choose, name_registered]
  cases hranked : (s.registered dis).ranked (cfg.filter hints) with
  | error exc => simp
  | ok ranked =>
      cases ranked with
      | nil => simp
      | cons c rest =>
          cases hrespond : respond cfg
              { primary := c, fallback := rest, strategy := s.name } with
          | none => simp [hrespond]
          | some response' => simp [hrespond]

theorem filter_ne_nil (h : ∃ e ∈ cfg.pool, Admits cfg hints e) :
    (cfg.filter hints).isEmpty = false := by
  rw [← Bool.not_eq_true, filter_isEmpty_iff]
  rintro hnone
  rcases h with ⟨e, he, hadmits⟩
  exact hnone e he hadmits

/-! ## Rankings -/

/-- One entry is eligible, or no key of an eligible entry is a NaN. -/
def Comparable (s : Strategy) (cfg : RoutingConfig) (hints : RequestHints) : Prop :=
  (cfg.filter hints).length = 1 ∨
    ∀ e ∈ cfg.pool, Admits cfg hints e → (s.key e.toCandidate).isNan = false

/-- What is comparable with nothing is alone. -/
theorem eq_singleton_of_pairwise {α : Type} {r : α → α → Prop} {l : List α} (hl : l.Pairwise r)
    {a : α} (ha : a ∈ l) (hnot : ∀ b, ¬ r a b ∧ ¬ r b a) : l = [a] := by
  rcases List.append_of_mem ha with ⟨front, back, rfl⟩
  rcases List.pairwise_append.1 hl with ⟨-, hback, hcross⟩
  have hfront : front = [] := by
    refine List.eq_nil_iff_forall_not_mem.2 fun b hb => ?_
    exact (hnot b).2 (hcross b hb a List.mem_cons_self)
  have htail : back = [] := by
    refine List.eq_nil_iff_forall_not_mem.2 fun b hb => ?_
    exact (hnot b).1 ((List.pairwise_cons.1 hback).1 b hb)
  rw [hfront, htail, List.nil_append]

/-- A ranking has the positions of the eligible entries. -/
theorem IsRanking.perm {is : List ℕ} (h : IsRanking s cfg hints is) :
    is.Perm ((eligible cfg hints).map Prod.snd) := by
  refine (List.perm_ext_iff_of_nodup h.nodup nodup_positions).2 fun i => ?_
  rw [h.mem_iff, mem_positions_iff]

theorem not_ahead_of_isNan {i : ℕ} {e : PoolEntry} (he : cfg.pool[i]? = some e)
    (hnan : (s.key e.toCandidate).isNan = true) (j : ℕ) :
    ¬ s.Ahead cfg.pool i j ∧ ¬ s.Ahead cfg.pool j i := by
  constructor
  · rintro ⟨e₁, e₂, h₁, -, hahead⟩
    rw [he, Option.some.injEq] at h₁
    subst h₁
    rcases not_compares_of_isNan hnan (s.key e₂.toCandidate) with ⟨hlt, hgt, heq, -⟩
    simp [Strategy.Better, hlt, hgt, heq] at hahead
  · rintro ⟨e₁, e₂, -, h₂, hahead⟩
    rw [he, Option.some.injEq] at h₂
    subst h₂
    rcases not_compares_of_isNan hnan (s.key e₁.toCandidate) with ⟨hlt, hgt, -, heq⟩
    simp [Strategy.Better, hlt, hgt, heq] at hahead

theorem comparable_of_isRanking {is : List ℕ} (h : IsRanking s cfg hints is) :
    Comparable s cfg hints := by
  refine or_iff_not_imp_right.2 fun hnan => ?_
  push Not at hnan
  rcases hnan with ⟨e, he, hadmits, hkey⟩
  rcases List.getElem?_of_mem he with ⟨i, hi⟩
  -- A NaN compares with nothing, so it stands in a ranking by itself.
  have hone := eq_singleton_of_pairwise h.ahead ((h.mem_iff i).2 ⟨e, hi, hadmits⟩)
    (not_ahead_of_isNan hi (by simpa using hkey))
  have hlength := h.perm.length_eq
  rw [hone, List.length_map] at hlength
  rw [length_filter, ← hlength, List.length_singleton]

theorem isRanking_of_perm {qs : List (PoolEntry × ℕ)} (hperm : qs.Perm (eligible cfg hints))
    (hpairs : qs.Pairwise fun p q =>
      s.Better (s.key p.1.toCandidate) (s.key q.1.toCandidate) ∨
        (s.key p.1.toCandidate).eq (s.key q.1.toCandidate) = true ∧ p.2 < q.2) :
    IsRanking s cfg hints (qs.map Prod.snd) where
  mem_iff := by
    intro i
    rw [(hperm.map Prod.snd).mem_iff, mem_positions_iff]
  nodup := by
    rw [(hperm.map Prod.snd).nodup_iff]
    exact nodup_positions
  ahead := by
    refine List.pairwise_map.2 (hpairs.imp_of_mem ?_)
    rintro ⟨e, i⟩ ⟨e', j⟩ he he' hahead
    exact ⟨e, e', (mem_eligible_iff.1 (hperm.mem_iff.1 he)).1,
      (mem_eligible_iff.1 (hperm.mem_iff.1 he')).1, hahead⟩

/-- Comparable entries are ranked. -/
theorem exists_ranked (dis : Disorder) (hcomparable : Comparable s cfg hints) :
    ∃ qs : List (PoolEntry × ℕ), qs.Perm (eligible cfg hints) ∧
      (s.registered dis).ranked (cfg.filter hints) = .ok (qs.map fun p => p.1.toCandidate) ∧
      IsRanking s cfg hints (qs.map Prod.snd) := by
  rcases hcomparable with hone | hnan
  · rw [length_filter] at hone
    rcases List.length_eq_one_iff.1 hone with ⟨p, hp⟩
    refine ⟨[p], by rw [hp], ?_, isRanking_of_perm (by rw [hp]) (List.pairwise_singleton _ _)⟩
    rw [filter_eq_map_eligible, hp, ranked_registered, List.map_singleton, sortedBy_singleton]
    simp
  · have hkeys : ∀ p ∈ eligible cfg hints, (s.key p.1.toCandidate).isNan = false := by
      rintro ⟨e, i⟩ he
      rcases mem_eligible_iff.1 he with ⟨hi, hadmits⟩
      exact hnan e (List.mem_of_getElem? hi) hadmits
    rcases exists_sorted dis s pairwise_eligible hkeys with ⟨qs, hperm, hsorted, hpairs⟩
    refine ⟨qs, hperm, ?_, isRanking_of_perm hperm hpairs⟩
    -- Without a NaN the strategy of the costs does not raise either.
    have hnone : ((cfg.filter hints).any fun c => (s.key c).isNan) = false := by
      rw [List.any_eq_false, filter_eq_map_eligible]
      intro c hc
      rcases List.mem_map.1 hc with ⟨p, hp, rfl⟩
      rw [hkeys p hp]
      exact Bool.false_ne_true
    rw [ranked_registered, hnone, if_neg (by simp), filter_eq_map_eligible, hsorted]

theorem listed_of_nonneg {fallbackMax : ℤ} (h : 0 ≤ fallbackMax) (cs : List Candidate) :
    listed fallbackMax cs = cs.take (1 + fallbackMax.toNat) := by
  cases cs with
  | nil => rw [listed, List.take_nil]
  | cons c rest => rw [listed, sliceTo, if_pos h, Nat.add_comm, List.take_succ_cons]

/-- A response to a ranked pool names the first of the ranking. -/
theorem names_of_ranked (hmax : 0 ≤ cfg.fallbackMax) {qs : List (PoolEntry × ℕ)}
    (hperm : qs.Perm (eligible cfg hints)) {c : Candidate} {rest : List Candidate}
    (hqs : qs.map (fun p => p.1.toCandidate) = c :: rest) {strategy : String}
    {response : ResolveModelResponse}
    (h : respond cfg { primary := c, fallback := rest, strategy := strategy } = some response) :
    Names cfg (qs.map Prod.snd) response := by
  rw [Names, (respond_eq_some_iff.1 h).2, listed_of_nonneg hmax, ← hqs, ← List.map_take,
    ← List.map_take, List.map_map, List.map_map]
  refine List.map_congr_left fun p hp => ?_
  have hmem := hperm.mem_iff.1 (List.mem_of_mem_take hp)
  rw [Function.comp_apply, Function.comp_apply, (mem_eligible_iff.1 hmem).1, Option.bind_some]

/-- The prices of the eligible entries cannot be ordered. -/
def Unordered (cfg : RoutingConfig) (hints : RequestHints) : Prop :=
  2 ≤ (cfg.filter hints).length ∧
    ∃ e ∈ cfg.pool, Admits cfg hints e ∧ e.pricingPerMillion.isNan = true

theorem any_isNan_iff {key : Candidate → PyNumber} :
    ((cfg.filter hints).any fun c => (key c).isNan) = true ↔
      ∃ e ∈ cfg.pool, Admits cfg hints e ∧ (key e.toCandidate).isNan = true := by
  rw [List.any_eq_true]
  constructor
  · rintro ⟨c, hc, hnan⟩
    rcases mem_filter_iff.1 hc with ⟨e, he, hadmits, rfl⟩
    exact ⟨e, he, hadmits, hnan⟩
  · rintro ⟨e, he, hadmits, hnan⟩
    exact ⟨e.toCandidate, mem_filter_iff.2 ⟨e, he, hadmits, rfl⟩, hnan⟩

theorem ranked_eq_ok_iff {ranked : List Candidate} :
    (s.registered dis).ranked (cfg.filter hints) = .ok ranked ↔
      ¬ (s = .cost ∧ Unordered cfg hints) ∧
        sortedBy dis s.key s.descending (cfg.filter hints) = ranked := by
  rw [ranked_registered]
  split
  · rename_i hraises
    rcases hraises with ⟨rfl, htwo, hany⟩
    refine iff_of_false (by simp) fun h => h.1 ⟨rfl, htwo, any_isNan_iff.1 hany⟩
  · rename_i hranks
    rw [Except.ok.injEq]
    refine (and_iff_right ?_).symm
    rintro ⟨rfl, htwo, hnan⟩
    exact hranks ⟨rfl, htwo, any_isNan_iff.2 hnan⟩

/-- The entries to be named have a model and a provider that a response can hold. -/
def Nameable (dis : Disorder) (s : Strategy) (cfg : RoutingConfig) (hints : RequestHints) : Prop :=
  ∀ c ∈ listed cfg.fallbackMax (sortedBy dis s.key s.descending (cfg.filter hints)),
    (fallbackTarget c).isSome = true

theorem mem_of_mem_listed {fallbackMax : ℤ} {cs : List Candidate} {c : Candidate}
    (h : c ∈ listed fallbackMax cs) : c ∈ cs := by
  cases cs with
  | nil => exact h
  | cons c' rest =>
      rcases List.mem_cons.1 h with rfl | hrest
      · exact List.mem_cons_self
      · exact List.mem_cons_of_mem _ (mem_of_mem_sliceTo hrest)

/-- So it is when the whole pool has texts for names. -/
theorem nameable_of_pool (h : ∀ e ∈ cfg.pool, (fallbackTarget e.toCandidate).isSome = true) :
    Nameable dis s cfg hints := by
  intro c hc
  have hmem := (sortedBy_perm dis s.key s.descending _).mem_iff.1 (mem_of_mem_listed hc)
  rcases mem_filter_iff.1 hmem with ⟨e, he, -, rfl⟩
  exact h e he

/-- With a known strategy and an eligible entry, a response names the first entries of a ranking
exactly when the keys are comparable and the entries can be named. -/
theorem ranks_iff (dis : Disorder) (cfg : RoutingConfig) (hints : RequestHints) (s : Strategy)
    (hname : cfg.defaultStrategy = .str s.name) (hmax : 0 ≤ cfg.fallbackMax)
    (heligible : ∃ e ∈ cfg.pool, Admits cfg hints e) :
    (∃ is response, IsRanking s cfg hints is ∧
        resolveModel (.default dis) cfg hints = .ok response ∧ Names cfg is response) ↔
      Comparable s cfg hints ∧ Nameable dis s cfg hints := by
  have hleft := filter_ne_nil heligible
  constructor
  · rintro ⟨is, response, hranking, hresponse, -⟩
    rcases (resolveModel_eq_ok_iff hname hleft).1 hresponse with ⟨c, rest, hranked, hrespond⟩
    refine ⟨comparable_of_isRanking hranking, ?_⟩
    rw [Nameable, (ranked_eq_ok_iff.1 hranked).2]
    exact exists_respond_iff.1 ⟨response, hrespond⟩
  · rintro ⟨hcomparable, hnameable⟩
    rcases exists_ranked dis hcomparable with ⟨qs, hperm, hranked, hranking⟩
    rw [Nameable, (ranked_eq_ok_iff.1 hranked).2] at hnameable
    cases hqs : qs.map fun p => p.1.toCandidate with
    | nil =>
        -- A ranking without entries would be one of no eligible entry.
        have hnil : cfg.filter hints = [] := by
          rw [filter_eq_map_eligible, ← List.length_eq_zero_iff, List.length_map,
            ← hperm.length_eq, List.map_eq_nil_iff.1 hqs, List.length_nil]
        rw [hnil] at hleft
        cases hleft
    | cons c rest =>
        rw [hqs] at hranked hnameable
        rcases exists_respond_iff.2 hnameable with ⟨response, hrespond⟩
        exact ⟨qs.map Prod.snd, response, hranking,
          (resolveModel_eq_ok_iff hname hleft).2 ⟨c, rest, hranked, hrespond⟩,
          names_of_ranked hmax hperm hqs hrespond⟩

/-- `gpt-4o-mini`, and in front of it the same model at Azure under a price of its own. -/
def miniAtAzure (price : PyNumber) : RoutingConfig :=
  { miniConfig with
    pool := [{ miniEntry with provider := .str "azure", pricingPerMillion := price }, miniEntry] }

theorem passes_mini : miniConfig.passes {} miniEntry = true := by
  decide +kernel

/-- No filter looks at a price or a provider. -/
theorem passes_miniAtAzure {price : PyNumber} {e : PoolEntry} (he : e ∈ (miniAtAzure price).pool) :
    (miniAtAzure price).passes {} e = true := by
  simp only [miniAtAzure, List.mem_cons, List.not_mem_nil, or_false] at he
  rcases he with rfl | rfl
  · exact passes_mini
  · exact passes_mini

theorem filter_miniAtAzure (price : PyNumber) :
    (miniAtAzure price).filter {} = (miniAtAzure price).pool.map PoolEntry.toCandidate := by
  rw [RoutingConfig.filter, List.filter_eq_self.2 fun e he => passes_miniAtAzure he]

theorem admits_miniAtAzure (price : PyNumber) :
    ∃ e ∈ (miniAtAzure price).pool, Admits (miniAtAzure price) {} e :=
  ⟨_, List.mem_cons_self, passes_iff.1 (passes_miniAtAzure List.mem_cons_self)⟩

/-- A pool of two is not ordered when one price is a NaN. -/
theorem nan_price_raises :
    resolveModel (.default inOrder) (miniAtAzure (.nan false)) {} = .error .invalidOperation ∧
      ¬ ∃ is response, IsRanking .cost (miniAtAzure (.nan false)) {} is ∧
        resolveModel (.default inOrder) (miniAtAzure (.nan false)) {} = .ok response ∧
        Names (miniAtAzure (.nan false)) is response := by
  have hraises :
      resolveModel (.default inOrder) (miniAtAzure (.nan false)) {} = .error .invalidOperation := by
    rw [resolveModel, filter_miniAtAzure]
    rfl
  refine ⟨hraises, ?_⟩
  rintro ⟨is, response, -, hreturns, -⟩
  rw [hraises] at hreturns
  cases hreturns

theorem ranks_iff_tie :
    ∃ is response, IsRanking .cost (miniAtAzure (.finite (1 / 4))) {} is ∧
      resolveModel (.default inOrder) (miniAtAzure (.finite (1 / 4))) {} = .ok response ∧
      Names (miniAtAzure (.finite (1 / 4))) is response := by
  refine (ranks_iff inOrder _ {} .cost rfl (by decide) (admits_miniAtAzure _)).2
    ⟨.inr ?_, nameable_of_pool ?_⟩
  · intro e he _
    simp only [miniAtAzure, List.mem_cons, List.not_mem_nil, or_false] at he
    rcases he with rfl | rfl <;> rfl
  · intro e he
    simp only [miniAtAzure, List.mem_cons, List.not_mem_nil, or_false] at he
    rcases he with rfl | rfl <;> rfl

/-! ## Configs that were loaded -/

/-- `ResolveModel` returns, with as many fallbacks as there are, up to `fallback_max`. -/
def Returns (dis : Disorder) (cfg : RoutingConfig) (hints : RequestHints) : Prop :=
  ∃ response, resolveModel (.default dis) cfg hints = .ok response ∧
    (0 ≤ cfg.fallbackMax → (∃ e ∈ cfg.pool, Admits cfg hints e) →
      (response.fallbackChain.length : ℤ) =
        min cfg.fallbackMax ((cfg.filter hints).length - 1))

theorem exists_name_of_resolveModel (hleft : (cfg.filter hints).isEmpty = false)
    {response : ResolveModelResponse}
    (h : resolveModel (.default dis) cfg hints = .ok response) :
    ∃ s : Strategy, cfg.defaultStrategy = .str s.name := by
  simp only [resolveModel, hleft, Bool.false_eq_true, if_false] at h
  cases hget : (StrategyRegistry.default dis).get cfg.defaultStrategy with
  | error exc =>
      rw [hget] at h
      cases h
  | ok strategy =>
      rcases exists_of_get hget with ⟨s, hname, -⟩
      exact ⟨s, hname⟩

theorem length_fallbackChain (hmax : 0 ≤ cfg.fallbackMax) {c : Candidate} {rest : List Candidate}
    {strategy : String} {response : ResolveModelResponse}
    (h : respond cfg { primary := c, fallback := rest, strategy := strategy } = some response) :
    (response.fallbackChain.length : ℤ) = min cfg.fallbackMax rest.length := by
  have hlength := congrArg List.length (respond_eq_some_iff.1 h).2
  rw [listed_of_nonneg hmax] at hlength
  simp only [ResolveModelResponse.targets, List.length_map, List.length_cons,
    List.length_take] at hlength
  omega

/-- For any config, loaded or not. -/
theorem returns_iff (dis : Disorder) (cfg : RoutingConfig) (hints : RequestHints) :
    Returns dis cfg hints ↔
      (∀ e ∈ cfg.pool, ¬ Admits cfg hints e) ∨
        ∃ s : Strategy, cfg.defaultStrategy = .str s.name ∧
          ¬ (s = .cost ∧ Unordered cfg hints) ∧ Nameable dis s cfg hints := by
  by_cases heligible : ∃ e ∈ cfg.pool, Admits cfg hints e
  · have hleft := filter_ne_nil heligible
    have hsome : ¬ ∀ e ∈ cfg.pool, ¬ Admits cfg hints e := by
      push Not
      exact heligible
    rw [or_iff_right hsome]
    constructor
    · rintro ⟨response, hresponse, -⟩
      rcases exists_name_of_resolveModel hleft hresponse with ⟨s, hname⟩
      rcases (resolveModel_eq_ok_iff hname hleft).1 hresponse with ⟨c, rest, hranked, hrespond⟩
      rcases ranked_eq_ok_iff.1 hranked with ⟨hordered, hsorted⟩
      refine ⟨s, hname, hordered, ?_⟩
      rw [Nameable, hsorted]
      exact exists_respond_iff.1 ⟨response, hrespond⟩
    · rintro ⟨s, hname, hordered, hnameable⟩
      rw [Nameable] at hnameable
      have hperm := sortedBy_perm dis s.key s.descending (cfg.filter hints)
      cases hsorted : sortedBy dis s.key s.descending (cfg.filter hints) with
      | nil =>
          rw [hsorted, List.nil_perm] at hperm
          rw [hperm] at hleft
          cases hleft
      | cons c rest =>
          rw [hsorted] at hperm hnameable
          rcases exists_respond_iff.2 hnameable with ⟨response, hrespond⟩
          refine ⟨response, (resolveModel_eq_ok_iff hname hleft).2
            ⟨c, rest, ranked_eq_ok_iff.2 ⟨hordered, hsorted⟩, hrespond⟩, fun hmax _ => ?_⟩
          rw [length_fallbackChain hmax hrespond, ← hperm.length_eq, List.length_cons]
          omega
  · have hnone : ∀ e ∈ cfg.pool, ¬ Admits cfg hints e := by
      push Not at heligible
      exact heligible
    refine iff_of_true ⟨sentinel, ?_, fun _ hsome => absurd hsome heligible⟩ (.inl hnone)
    rw [resolveModel, filter_isEmpty_iff.2 hnone]
    rfl

/-- `miniFile` under a strategy that nobody has registered. -/
def fastestFile : Yaml :=
  match miniFile with
  | .map ms => .map ((.str "default_strategy", .str "fastest") :: ms)
  | v => v

/-- It is loaded, and no request with an eligible entry is answered. -/
theorem unknown_strategy_raises :
    parse plainConversions fastestFile =
        some { miniConfig with defaultStrategy := .str "fastest" } ∧
      ¬ Returns inOrder { miniConfig with defaultStrategy := .str "fastest" } {} := by
  refine ⟨rfl, ?_⟩
  rintro ⟨response, hreturns, -⟩
  have hfilter : ({ miniConfig with defaultStrategy := .str "fastest" } : RoutingConfig).filter {} =
      [miniEntry.toCandidate] := by
    show ([miniEntry].filter (miniConfig.passes {})).map PoolEntry.toCandidate = _
    rw [List.filter_cons_of_pos passes_mini]
    rfl
  rw [resolveModel, hfilter] at hreturns
  cases hreturns

end Routing
end Backend
end OpenRouter
