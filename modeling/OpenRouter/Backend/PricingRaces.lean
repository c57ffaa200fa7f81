import OpenRouter.Backend.PricingCache
import OpenRouter.Base.Transition

/-!
# PricingRaces — lookups of pricing at the same time

The awaits of `PricingRepository.get` are steps of their own: reading Redis, reading the table and
writing Redis, with other lookups, changes of the table and `invalidate` between any two of them.
`cached_of_run` says what Redis holds after any run, and `fresh_iff_settled` when an `invalidate`
makes the lookups after it return the row as it is.
-/

namespace OpenRouter
namespace Backend
namespace PricingRepository
namespace Races

open Base

/-! ## The lookups -/

/-- Where a call of `get` is. -/
inductive Pc
  | reading
  /-- Redis had no entry. -/
  | missed
  | loaded (p : DecimalPricing)
  | returned (result : Option DecimalPricing)
  | raised (exc : Raised)
  /-- Redis or the database has failed the call. -/
  | failed

/-- What `_cache_get` makes of it. -/
def Pc.afterCacheGet : Except Raised (Option DecimalPricing) → Pc
  | .error exc => .raised exc
  | .ok (some cached) => .returned (some cached)
  | .ok none => .missed

/-- What `_db_get` makes of it. -/
def Pc.afterDbGet : Except Raised (Option DecimalPricing) → Pc
  | .error exc => .raised exc
  | .ok (some row) => .loaded row
  | .ok none => .returned none

def Pc.over : Pc → Bool
  | .reading | .missed | .loaded _ => false
  | .returned _ | .raised _ | .failed => true

structure GetCall where
  modelKey : String
  pc : Pc

structure World where
  now : ℤ
  rows : Rows
  redis : Redis
  gets : List GetCall

inductive Label
  | tick (d : ℕ)
  /-- A transaction has changed `model_pricing`. -/
  | commit (rows : Rows)
  | call (modelKey : String)
  | cacheGet (i : ℕ)
  | dbGet (i : ℕ)
  | cacheSet (i : ℕ)
  | fail (i : ℕ)
  | invalidate (modelKey : String)

def World.advance (w : World) (i : ℕ) (g : GetCall) (pc : Pc) : World :=
  { w with gets := w.gets.set i { g with pc := pc } }

variable (convert : Convert)

def step (w : World) : Label → Option World
  | .tick d => some { w with now := w.now + d }
  | .commit rows => some { w with rows := rows }
  | .call modelKey => some { w with gets := w.gets ++ [{ modelKey := modelKey, pc := .reading }] }
  | .cacheGet i => do
      let g ← w.gets[i]?
      match g.pc with
      | .reading =>
          some (w.advance i g (.afterCacheGet (cacheGet convert w.redis w.now g.modelKey)))
      | _ => none
  | .dbGet i => do
      let g ← w.gets[i]?
      match g.pc with
      | .missed => some (w.advance i g (.afterDbGet (dbGet w.rows g.modelKey)))
      | _ => none
  | .cacheSet i => do
      let g ← w.gets[i]?
      match g.pc with
      | .loaded p =>
          some
            { w.advance i g (.returned (some p)) with
              redis := cacheSet w.redis w.now g.modelKey p }
      | _ => none
  | .fail i => do
      let g ← w.gets[i]?
      if g.pc.over then none else some (w.advance i g .failed)
  | .invalidate modelKey => some { w with redis := w.redis.delete (cacheNs ++ modelKey) }

/-! ## What a step does -/

/-- What a step takes, and what it leaves. -/
inductive Taken (w : World) : Label → World → Prop
  | tick (d : ℕ) : Taken w (.tick d) { w with now := w.now + d }
  | commit (rows : Rows) : Taken w (.commit rows) { w with rows := rows }
  | call (modelKey : String) : Taken w (.call modelKey)
      { w with gets := w.gets ++ [{ modelKey := modelKey, pc := .reading }] }
  | cacheGet {i : ℕ} {g : GetCall} (hg : w.gets[i]? = some g) (hpc : g.pc = .reading) :
      Taken w (.cacheGet i)
        (w.advance i g (.afterCacheGet (cacheGet convert w.redis w.now g.modelKey)))
  | dbGet {i : ℕ} {g : GetCall} (hg : w.gets[i]? = some g) (hpc : g.pc = .missed) :
      Taken w (.dbGet i) (w.advance i g (.afterDbGet (dbGet w.rows g.modelKey)))
  | cacheSet {i : ℕ} {g : GetCall} {p : DecimalPricing} (hg : w.gets[i]? = some g)
      (hpc : g.pc = .loaded p) : Taken w (.cacheSet i)
        { w.advance i g (.returned (some p)) with
          redis := cacheSet w.redis w.now g.modelKey p }
  | fail {i : ℕ} {g : GetCall} (hg : w.gets[i]? = some g) (hpc : g.pc.over = false) :
      Taken w (.fail i) (w.advance i g .failed)
  | invalidate (modelKey : String) : Taken w (.invalidate modelKey)
      { w with redis := w.redis.delete (cacheNs ++ modelKey) }

/-- What a step does to Redis. -/
inductive RedisEffect (w : World) (redis : Redis) : Label → Prop
  | same {l : Label} (hset : ∀ i, l ≠ .cacheSet i)
      (hdelete : ∀ modelKey, l ≠ .invalidate modelKey) (hredis : redis = w.redis) :
      RedisEffect w redis l
  | cacheSet {i : ℕ} {g : GetCall} {p : DecimalPricing} (hg : w.gets[i]? = some g)
      (hpc : g.pc = .loaded p) (hredis : redis = cacheSet w.redis w.now g.modelKey p) :
      RedisEffect w redis (.cacheSet i)
  | invalidate {modelKey : String} (hredis : redis = w.redis.delete (cacheNs ++ modelKey)) :
      RedisEffect w redis (.invalidate modelKey)

/-- How a call has come to be what it is after a step. -/
inductive Moved (w : World) (i : ℕ) : Label → GetCall → Prop
  | same {l : Label} {g : GetCall} (hg : w.gets[i]? = some g) : Moved w i l g
  | begun {modelKey : String} (hi : i = w.gets.length) :
      Moved w i (.call modelKey) { modelKey := modelKey, pc := .reading }
  | cacheGet {g : GetCall} (hg : w.gets[i]? = some g) (hpc : g.pc = .reading) :
      Moved w i (.cacheGet i)
        { g with pc := .afterCacheGet (cacheGet convert w.redis w.now g.modelKey) }
  | dbGet {g : GetCall} (hg : w.gets[i]? = some g) (hpc : g.pc = .missed) :
      Moved w i (.dbGet i) { g with pc := .afterDbGet (dbGet w.rows g.modelKey) }
  | cacheSet {g : GetCall} {p : DecimalPricing} (hg : w.gets[i]? = some g)
      (hpc : g.pc = .loaded p) : Moved w i (.cacheSet i) { g with pc := .returned (some p) }
  | failed {g : GetCall} (hg : w.gets[i]? = some g) (hpc : g.pc.over = false) :
      Moved w i (.fail i) { g with pc := .failed }

/-- What a step does to the clock, to the table and to the number of calls. -/
structure Frame (w : World) (l : Label) (w' : World) : Prop where
  now : w.now ≤ w'.now
  rows : (∃ rows, l = .commit rows ∧ w'.rows = rows) ∨ w'.rows = w.rows
  length : w.gets.length ≤ w'.gets.length

variable {convert} {w w' : World} {l : Label}

theorem taken_of_step (h : step convert w l = some w') : Taken convert w l w' := by
  cases l with
  | tick | commit | call | invalidate =>
      cases h
      constructor
  | cacheGet i =>
      rcases Option.bind_eq_some_iff.1 h with ⟨g, hg, h⟩
      split at h
      · rename_i hpc
        cases h
        exact .cacheGet hg hpc
      · cases h
  | dbGet i =>
      rcases Option.bind_eq_some_iff.1 h with ⟨g, hg, h⟩
      split at h
      · rename_i hpc
        cases h
        exact .dbGet hg hpc
      · cases h
  | cacheSet i =>
      rcases Option.bind_eq_some_iff.1 h with ⟨g, hg, h⟩
      split at h
      · rename_i p hpc
        cases h
        exact .cacheSet hg hpc
      · cases h
  | fail i =>
      rcases Option.bind_eq_some_iff.1 h with ⟨g, hg, h⟩
      split_ifs at h with hover
      cases h
      exact .fail hg (Bool.eq_false_iff.2 hover)

theorem redisEffect_of_step (h : step convert w l = some w') : RedisEffect w w'.redis l := by
  cases taken_of_step h with
  | tick | commit | call | cacheGet | dbGet | fail =>
      exact .same (fun _ => Label.noConfusion) (fun _ => Label.noConfusion) rfl
  | cacheSet hg hpc => exact .cacheSet hg hpc rfl
  | invalidate modelKey => exact .invalidate rfl

/-- A call that was moved is the one at its place, and the others are as they were. -/
theorem get_advance {i j : ℕ} {g g' : GetCall} {pc : Pc} (hg : w.gets[i]? = some g)
    (h : (w.advance i g pc).gets[j]? = some g') :
    j = i ∧ g' = { g with pc := pc } ∨ w.gets[j]? = some g' := by
  rcases List.getElem?_eq_some_iff.1 hg with ⟨hlt, -⟩
  rw [World.advance, List.getElem?_set] at h
  split_ifs at h with hij
  · cases h
    exact .inl ⟨hij.symm, rfl⟩
  · exact .inr h

theorem moved_of_step (h : step convert w l = some w') {j : ℕ} {g' : GetCall}
    (hg' : w'.gets[j]? = some g') : Moved convert w j l g' := by
  cases taken_of_step h with
  | tick | commit | invalidate => exact .same hg'
  | call modelKey =>
      rcases lt_or_ge j w.gets.length with hlt | hge
      · rw [List.getElem?_append_left hlt] at hg'
        exact .same hg'
      · rw [List.getElem?_append_right hge, List.getElem?_singleton] at hg'
        split_ifs at hg' with hzero
        cases hg'
        exact .begun (by omega)
  | cacheGet hg hpc =>
      rcases get_advance hg hg' with ⟨rfl, rfl⟩ | hsame
      · exact .cacheGet hg hpc
      · exact .same hsame
  | dbGet hg hpc =>
      rcases get_advance hg hg' with ⟨rfl, rfl⟩ | hsame
      · exact .dbGet hg hpc
      · exact .same hsame
  | cacheSet hg hpc =>
      rcases get_advance hg hg' with ⟨rfl, rfl⟩ | hsame
      · exact .cacheSet hg hpc
      · exact .same hsame
  | fail hg hpc =>
      rcases get_advance hg hg' with ⟨rfl, rfl⟩ | hsame
      · exact .failed hg hpc
      · exact .same hsame

theorem frame_of_step (h : step convert w l = some w') : Frame w l w' := by
  cases taken_of_step h with
  | tick d => exact ⟨Int.le_add_of_nonneg_right (Int.natCast_nonneg d), .inr rfl, le_rfl⟩
  | commit rows => exact ⟨le_rfl, .inl ⟨rows, rfl, rfl⟩, le_rfl⟩
  | call modelKey => exact ⟨le_rfl, .inr rfl, by simp⟩
  | invalidate modelKey => exact ⟨le_rfl, .inr rfl, le_rfl⟩
  | cacheGet | dbGet | cacheSet | fail => exact ⟨le_rfl, .inr rfl, (List.length_set).ge⟩

/-! ## What Redis holds -/

/-- The entry of a pricing that was put at an instant. -/
def entry (p : DecimalPricing) (setAt : ℤ) : Entry where
  value := encode (dumps (body p))
  expireAt := setAt + cacheTtlS * 1000

/-- The call has found the pricing in the table. -/
def Looked (convert : Convert) (w₀ : World) (past : List Label) (i : ℕ) (modelKey : String)
    (p : DecimalPricing) : Prop :=
  ∃ before between w, past = before ++ Label.dbGet i :: between ∧
    exec (step convert) w₀ before = some w ∧ dbGet w.rows modelKey = .ok (some p)

/-- The step leaves the entry of the model. -/
def Spares (modelKey : String) (w : World) : Label → Prop
  | .cacheSet i => ∀ g, w.gets[i]? = some g → g.modelKey ≠ modelKey
  | .invalidate other => other ≠ modelKey
  | _ => True

/-- A call that has found `p` in the table has put it into Redis at `setAt`, and no step after has
touched the entry. -/
structure Filled (convert : Convert) (w₀ : World) (past : List Label) (modelKey : String)
    (p : DecimalPricing) (setAt : ℤ) : Prop where
  run : ∃ before i after w w', past = before ++ Label.cacheSet i :: after ∧
    exec (step convert) w₀ before = some w ∧ w.now = setAt ∧
    w.gets[i]? = some { modelKey := modelKey, pc := .loaded p } ∧
    Looked convert w₀ before i modelKey p ∧
    step convert w (.cacheSet i) = some w' ∧
    Guarded (step convert) (Spares modelKey) w' after

section Entries

variable {w₀ : World} {past : List Label} {modelKey : String} {p : DecimalPricing} {setAt : ℤ}

theorem cacheNs_inj {a b : String} (h : a ≠ b) : cacheNs ++ a ≠ cacheNs ++ b :=
  fun heq => h ((String.append_right_inj cacheNs).1 heq)

theorem cacheSet_self (redis : Redis) (now : ℤ) (modelKey : String) (p : DecimalPricing) :
    cacheSet redis now modelKey p (cacheNs ++ modelKey) = some (entry p now) := by
  rw [cacheSet, Redis.set, Function.update_self]
  rfl

theorem cacheSet_of_ne (redis : Redis) (now : ℤ) {modelKey other : String} (p : DecimalPricing)
    (h : other ≠ modelKey) :
    cacheSet redis now modelKey p (cacheNs ++ other) = redis (cacheNs ++ other) := by
  rw [cacheSet, Redis.set, Function.update_of_ne (cacheNs_inj h)]

theorem cacheGet_of_none {redis : Redis} {now : ℤ} (h : redis (cacheNs ++ modelKey) = none) :
    cacheGet convert redis now modelKey = .ok none := by
  rw [cacheGet, Redis.get, h]

/-- Of an entry, the pricing is read back until it expires. -/
theorem cacheGet_of_entry {redis : Redis} {now : ℤ}
    (h : redis (cacheNs ++ modelKey) = some (entry p setAt)) :
    cacheGet convert redis now modelKey =
      .ok (if now ≤ setAt + cacheTtlS * 1000 then some p else none) := by
  rw [← cacheGet_cacheSet convert redis setAt now modelKey p, cacheGet, cacheGet, Redis.get,
    Redis.get, h, cacheSet_self]

theorem Looked.concat {i : ℕ} (h : Looked convert w₀ past i modelKey p) (l : Label) :
    Looked convert w₀ (past ++ [l]) i modelKey p := by
  rcases h with ⟨before, between, w, rfl, hrun, hrow⟩
  exact ⟨before, between ++ [l], w, by simp, hrun, hrow⟩

theorem Filled.concat (h : Filled convert w₀ past modelKey p setAt)
    (hrun : exec (step convert) w₀ past = some w) (hl : Spares modelKey w l) :
    Filled convert w₀ (past ++ [l]) modelKey p setAt := by
  rcases h.run with ⟨before, i, after, w₁, w₂, rfl, hbefore, hnow, hg, hlooked, hstep, hafter⟩
  refine ⟨before, i, after ++ [l], w₁, w₂, by simp, hbefore, hnow, hg, hlooked, hstep, ?_⟩
  rcases exec_append.1 hrun with ⟨w₁', hbefore', hrest⟩
  cases hbefore.symm.trans hbefore'
  rcases exec_cons.1 hrest with ⟨w₂', hstep', hrest⟩
  cases hstep.symm.trans hstep'
  exact guarded_append hafter hrest ⟨hl, fun _ _ => trivial⟩

/-- A step that spares an entry leaves it. -/
theorem entry_of_spares (h : step convert w l = some w') (hl : Spares modelKey w l) :
    w'.redis (cacheNs ++ modelKey) = w.redis (cacheNs ++ modelKey) := by
  cases redisEffect_of_step h with
  | same _ _ hredis => rw [hredis]
  | cacheSet hg hpc hredis => rw [hredis, cacheSet_of_ne w.redis w.now _ (hl _ hg).symm]
  | invalidate hredis =>
      rw [hredis, Redis.delete, Function.update_of_ne (cacheNs_inj hl.symm)]

/-- What was filled is what Redis holds. -/
theorem Filled.entry (h : Filled convert w₀ past modelKey p setAt)
    (hrun : exec (step convert) w₀ past = some w) :
    w.redis (cacheNs ++ modelKey) = some (entry p setAt) := by
  rcases h.run with ⟨before, i, after, w₁, w₂, rfl, hbefore, rfl, hg, -, hstep, hafter⟩
  rcases exec_append.1 hrun with ⟨w₁', hbefore', hrest⟩
  cases hbefore.symm.trans hbefore'
  rcases exec_cons.1 hrest with ⟨w₂', hstep', hrest⟩
  cases hstep.symm.trans hstep'
  have hput : w₂.redis (cacheNs ++ modelKey) = some (Races.entry p w₁.now) := by
    cases redisEffect_of_step hstep with
    | same hset => exact absurd rfl (hset i)
    | cacheSet hg' hpc hredis =>
        cases hg.symm.trans hg'
        cases hpc
        rw [hredis, cacheSet_self]
  have hkept : ∀ (s : World) (l : Label) (s' : World),
      s.redis (cacheNs ++ modelKey) = some (Races.entry p w₁.now) → Spares modelKey s l →
        step convert s l = some s' →
          s'.redis (cacheNs ++ modelKey) = some (Races.entry p w₁.now) :=
    fun s l s' hs hl hstep => (entry_of_spares hstep hl).trans hs
  exact exec_invariant_of_guarded hkept hput hafter hrest

end Entries

/-- What a run knows of the pricings that are under way. -/
structure Traced (convert : Convert) (w₀ : World) (past : List Label) (w : World) : Prop where
  run : exec (step convert) w₀ past = some w
  loaded : ∀ i g p, w.gets[i]? = some g → g.pc = .loaded p →
    Looked convert w₀ past i g.modelKey p
  cached : ∀ modelKey e, w.redis (cacheNs ++ modelKey) = some e →
    ∃ p setAt, Filled convert w₀ past modelKey p setAt ∧ e = entry p setAt

section Traces

variable {w₀ : World} {past : List Label}

theorem Traced.loaded_step (h : Traced convert w₀ past w) (hstep : step convert w l = some w') :
    ∀ i g p, w'.gets[i]? = some g → g.pc = .loaded p →
      Looked convert w₀ (past ++ [l]) i g.modelKey p := by
  intro i g p hg hpc
  cases moved_of_step hstep hg with
  | same hg => exact (h.loaded i g p hg hpc).concat l
  | begun => cases hpc
  | @cacheGet g hg hreading =>
      rcases hcached : cacheGet convert w.redis w.now g.modelKey with exc | - | cached <;>
        rw [hcached] at hpc <;> cases hpc
  | @dbGet g hg hmissed =>
      rcases hrow : dbGet w.rows g.modelKey with exc | - | row
      · rw [hrow] at hpc
        cases hpc
      · rw [hrow] at hpc
        cases hpc
      · rw [hrow] at hpc
        cases hpc
        exact ⟨past, [], w, rfl, h.run, hrow⟩
  | cacheSet => cases hpc
  | failed => cases hpc

theorem Traced.cached_step (h : Traced convert w₀ past w) (hstep : step convert w l = some w') :
    ∀ modelKey e, w'.redis (cacheNs ++ modelKey) = some e →
      ∃ p setAt, Filled convert w₀ (past ++ [l]) modelKey p setAt ∧ e = entry p setAt := by
  intro modelKey e he
  -- An entry that the step spares was there before.
  by_cases hspares : Spares modelKey w l
  · rw [entry_of_spares hstep hspares] at he
    rcases h.cached modelKey e he with ⟨p, setAt, hfilled, heq⟩
    exact ⟨p, setAt, hfilled.concat h.run hspares, heq⟩
  · cases redisEffect_of_step hstep with
    | same hset hdelete =>
        cases l with
        | cacheSet i => exact absurd rfl (hset i)
        | invalidate other => exact absurd rfl (hdelete other)
        | _ => exact absurd trivial hspares
    | @cacheSet i g p hg hpc hredis =>
        have hkey : g.modelKey = modelKey := by
          by_contra hne
          exact hspares fun g' hg' => Option.some.inj (hg.symm.trans hg') ▸ hne
        rcases g with ⟨key, pc⟩
        cases hpc
        cases hkey
        rw [hredis, cacheSet_self] at he
        cases he
        exact ⟨p, w.now, ⟨past, i, [], w, w', rfl, h.run, rfl, hg, h.loaded i _ p hg rfl, hstep,
          trivial⟩, rfl⟩
    | @invalidate other hredis =>
        have hkey : other = modelKey := not_not.1 hspares
        rw [hredis, hkey, Redis.delete, Function.update_self] at he
        cases he

theorem traced_of_run (hgets : w₀.gets = [])
    (hredis : ∀ modelKey, w₀.redis (cacheNs ++ modelKey) = none)
    (h : exec (step convert) w₀ past = some w) : Traced convert w₀ past w := by
  refine exec_history (P := fun past w => Traced convert w₀ past w) ?start ?step h
  case start =>
    refine ⟨rfl, ?_, ?_⟩
    · intro i g p hg
      rw [hgets] at hg
      cases hg
    · intro modelKey e he
      rw [hredis] at he
      cases he
  case step =>
    intro past w l w' htraced hstep
    exact
      { run := exec_append.2 ⟨w, htraced.run, exec_cons.2 ⟨w', hstep, rfl⟩⟩
        loaded := htraced.loaded_step hstep
        cached := htraced.cached_step hstep }

/-- After any run of lookups, a cached pricing is read back without an error, and it is the one
that the last write of its entry has put there, from the table, no more than a minute ago. -/
theorem cached_of_run (hgets : w₀.gets = [])
    (hredis : ∀ modelKey, w₀.redis (cacheNs ++ modelKey) = none)
    (h : exec (step convert) w₀ past = some w) (modelKey : String) :
    (∀ exc, cacheGet convert w.redis w.now modelKey ≠ .error exc) ∧
      ∀ p, cacheGet convert w.redis w.now modelKey = .ok (some p) ↔
        ∃ setAt, Filled convert w₀ past modelKey p setAt ∧
          w.now ≤ setAt + cacheTtlS * 1000 := by
  have htraced := traced_of_run hgets hredis h
  cases he : w.redis (cacheNs ++ modelKey) with
  | none =>
      rw [cacheGet_of_none he]
      refine ⟨fun exc => nofun, fun p => ⟨nofun, ?_⟩⟩
      rintro ⟨setAt, hfilled, -⟩
      rw [hfilled.entry h] at he
      cases he
  | some e =>
      rcases htraced.cached modelKey e he with ⟨q, setAt, hfilled, rfl⟩
      have hread : cacheGet convert w.redis w.now modelKey = _ := cacheGet_of_entry he
      rw [hread]
      refine ⟨fun exc => nofun, fun p => ⟨?_, ?_⟩⟩
      · intro hp
        split_ifs at hp with hlive
        · cases hp
          exact ⟨setAt, hfilled, hlive⟩
        · cases hp
      · rintro ⟨setAt', hfilled', hlive⟩
        have hentry := hfilled'.entry h
        have hread' : cacheGet convert w.redis w.now modelKey = _ := cacheGet_of_entry hentry
        rw [← hread, hread', if_pos hlive]

end Traces

/-! ### A price that is gone -/

def onePrice : World where
  now := 0
  rows := fun _ => [miniPricing]
  redis := fun _ => none
  gets := []

def filling : List Label :=
  [.call "gpt-4o-mini", .cacheGet 0, .dbGet 0]

/-- The row goes, and a minute passes. -/
def outdating : List Label :=
  [.commit fun _ => [], .tick 60000]

/-- The price is cached to the last instant of its minute. -/
theorem cached_of_run_onePrice :
    ∃ w, exec (step fun _ => .error .typeError) onePrice
        (filling ++ Label.cacheSet 0 :: outdating) = some w ∧
      dbGet w.rows "gpt-4o-mini" = .ok none ∧
      cacheGet (fun _ => .error .typeError) w.redis w.now "gpt-4o-mini" =
        .ok (some miniPricing) := by
  let full : World :=
    { onePrice with gets := [{ modelKey := "gpt-4o-mini", pc := .loaded miniPricing }] }
  let filled : World :=
    { now := 0
      rows := fun _ => [miniPricing]
      redis := cacheSet (fun _ => none) 0 "gpt-4o-mini" miniPricing
      gets := [{ modelKey := "gpt-4o-mini", pc := .returned (some miniPricing) }] }
  have hfilling : exec (step fun _ => .error .typeError) onePrice filling = some full := rfl
  have hset : step (fun _ => .error .typeError) full (.cacheSet 0) = some filled := rfl
  have hrun : exec (step fun _ => .error .typeError) onePrice
      (filling ++ Label.cacheSet 0 :: outdating) =
        some { filled with now := 60000, rows := fun _ => [] } :=
    exec_append.2 ⟨full, hfilling, exec_cons.2 ⟨filled, hset, rfl⟩⟩
  have hlooked : Looked (fun _ => .error .typeError) onePrice filling 0 "gpt-4o-mini" miniPricing :=
    ⟨[.call "gpt-4o-mini", .cacheGet 0], [], _, rfl, rfl, rfl⟩
  refine ⟨_, hrun, rfl, ?_⟩
  refine ((cached_of_run rfl (fun _ => rfl) hrun "gpt-4o-mini").2 miniPricing).2 ⟨0, ?_, by decide⟩
  exact ⟨filling, 0, outdating, full, filled, rfl, hfilling, rfl, rfl, hlooked, hset,
    trivial, fun _ _ => ⟨trivial, fun _ _ => trivial⟩⟩

/-! ## After an `invalidate` -/

/-- As long as no transaction changes the row, the lookups that begin after the `invalidate` return
the row. -/
def Fresh (convert : Convert) (w : World) (modelKey : String) : Prop :=
  ∀ later w', exec (step convert) w (.invalidate modelKey :: later) = some w' →
    (∀ rows, Label.commit rows ∈ later → rows modelKey = w.rows modelKey) →
    ∀ i g result, w.gets.length ≤ i → w'.gets[i]? = some g → g.modelKey = modelKey →
      g.pc = .returned result → dbGet w.rows modelKey = .ok result

/-- No lookup holds another pricing than the row, to put it into Redis next. -/
def Settled (w : World) (modelKey : String) : Prop :=
  ∀ (i : ℕ) (g : GetCall) (p : DecimalPricing), w.gets[i]? = some g → g.modelKey = modelKey →
    g.pc = .loaded p → dbGet w.rows modelKey = .ok (some p)

/-- What holds after an `invalidate` in a settled world; `n` calls had begun before. -/
structure Kept (rows : Rows) (modelKey : String) (n : ℕ) (w : World) : Prop where
  row : w.rows modelKey = rows modelKey
  cached : ∀ e, w.redis (cacheNs ++ modelKey) = some e →
    ∃ p setAt, dbGet rows modelKey = .ok (some p) ∧ e = entry p setAt
  loaded : ∀ (i : ℕ) (g : GetCall) (p : DecimalPricing), w.gets[i]? = some g →
    g.modelKey = modelKey → g.pc = .loaded p → dbGet rows modelKey = .ok (some p)
  returned : ∀ (i : ℕ) (g : GetCall) (result : Option DecimalPricing), n ≤ i →
    w.gets[i]? = some g → g.modelKey = modelKey →
    g.pc = .returned result → dbGet rows modelKey = .ok result
  begun : n ≤ w.gets.length

theorem dbGet_congr {rows rows' : Rows} {modelKey : String} (h : rows modelKey = rows' modelKey) :
    dbGet rows modelKey = dbGet rows' modelKey := by
  rw [dbGet, dbGet, h]

namespace Kept

variable {rows : Rows} {modelKey : String} {n : ℕ}

/-- Redis has no entry of the model, or that of its row. -/
theorem cacheGet_cases (convert : Convert) (h : Kept rows modelKey n w) (now : ℤ) :
    cacheGet convert w.redis now modelKey = .ok none ∨
      ∃ p, cacheGet convert w.redis now modelKey = .ok (some p) ∧
        dbGet rows modelKey = .ok (some p) := by
  cases he : w.redis (cacheNs ++ modelKey) with
  | none => exact .inl (cacheGet_of_none he)
  | some e =>
      rcases h.cached e he with ⟨p, setAt, hrow, rfl⟩
      rw [cacheGet_of_entry he]
      split_ifs
      · exact .inr ⟨p, rfl, hrow⟩
      · exact .inl rfl

theorem cached_step (h : Kept rows modelKey n w) (hstep : step convert w l = some w') :
    ∀ e, w'.redis (cacheNs ++ modelKey) = some e →
      ∃ p setAt, dbGet rows modelKey = .ok (some p) ∧ e = entry p setAt := by
  intro e he
  by_cases hspares : Spares modelKey w l
  · rw [entry_of_spares hstep hspares] at he
    exact h.cached e he
  · cases redisEffect_of_step hstep with
    | same hset hdelete hredis =>
        rw [hredis] at he
        exact h.cached e he
    | @cacheSet i g p hg hpc hredis =>
        have hkey : g.modelKey = modelKey := by
          by_contra hne
          exact hspares fun g' hg' => Option.some.inj (hg.symm.trans hg') ▸ hne
        rw [hredis, hkey, cacheSet_self] at he
        cases he
        exact ⟨p, w.now, h.loaded i g p hg hkey hpc, rfl⟩
    | @invalidate other hredis =>
        have hkey : other = modelKey := not_not.1 hspares
        rw [hredis, hkey, Redis.delete, Function.update_self] at he
        cases he

theorem loaded_step (h : Kept rows modelKey n w) (hstep : step convert w l = some w') :
    ∀ (i : ℕ) (g : GetCall) (p : DecimalPricing), w'.gets[i]? = some g → g.modelKey = modelKey →
      g.pc = .loaded p → dbGet rows modelKey = .ok (some p) := by
  intro i g p hg hkey hpc
  cases moved_of_step hstep hg with
  | same hg => exact h.loaded i g p hg hkey hpc
  | begun => cases hpc
  | @cacheGet g hg hreading =>
      rcases hcached : cacheGet convert w.redis w.now g.modelKey with exc | - | cached <;>
        rw [hcached] at hpc <;> cases hpc
  | @dbGet g hg hmissed =>
      have hkey' : g.modelKey = modelKey := hkey
      rw [hkey'] at hpc
      rw [← dbGet_congr h.row]
      rcases hfound : dbGet w.rows modelKey with exc | - | row
      · rw [hfound] at hpc
        cases hpc
      · rw [hfound] at hpc
        cases hpc
      · rw [hfound] at hpc
        cases hpc
        rfl
  | cacheSet => cases hpc
  | failed => cases hpc

theorem returned_step (h : Kept rows modelKey n w) (hstep : step convert w l = some w') :
    ∀ (i : ℕ) (g : GetCall) (result : Option DecimalPricing), n ≤ i → w'.gets[i]? = some g →
      g.modelKey = modelKey → g.pc = .returned result → dbGet rows modelKey = .ok result := by
  intro i g result hi hg hkey hpc
  cases moved_of_step hstep hg with
  | same hg => exact h.returned i g result hi hg hkey hpc
  | begun => cases hpc
  | @cacheGet g hg hreading =>
      have hkey' : g.modelKey = modelKey := hkey
      rw [hkey'] at hpc
      rcases h.cacheGet_cases convert w.now with hnone | ⟨p, hsome, hrow⟩
      · rw [hnone] at hpc
        cases hpc
      · rw [hsome] at hpc
        cases hpc
        exact hrow
  | @dbGet g hg hmissed =>
      have hkey' : g.modelKey = modelKey := hkey
      rw [hkey'] at hpc
      rw [← dbGet_congr h.row]
      rcases hfound : dbGet w.rows modelKey with exc | - | row
      · rw [hfound] at hpc
        cases hpc
      · rw [hfound] at hpc
        cases hpc
        rfl
      · rw [hfound] at hpc
        cases hpc
  | @cacheSet g p hcall hloaded =>
      cases hpc
      exact h.loaded i g p hcall hkey hloaded
  | failed => cases hpc

theorem step (h : Kept rows modelKey n w)
    (hrows : ∀ rows', l = .commit rows' → rows' modelKey = rows modelKey)
    (hstep : Races.step convert w l = some w') : Kept rows modelKey n w' where
  row := by
    rcases (frame_of_step hstep).rows with ⟨rows', hl, hw'⟩ | hw'
    · rw [hw', hrows rows' hl]
    · rw [hw', h.row]
  cached := h.cached_step hstep
  loaded := h.loaded_step hstep
  returned := h.returned_step hstep
  begun := h.begun.trans (frame_of_step hstep).length

end Kept

theorem kept_of_settled {modelKey : String} (h : Settled w modelKey) :
    Kept w.rows modelKey w.gets.length
      { w with redis := w.redis.delete (cacheNs ++ modelKey) } where
  row := rfl
  cached := by
    intro e he
    have hdeleted : w.redis.delete (cacheNs ++ modelKey) (cacheNs ++ modelKey) = none :=
      Function.update_self ..
    cases hdeleted.symm.trans he
  loaded := h
  returned := by
    intro i g result hi hg
    rw [List.getElem?_eq_none hi] at hg
    cases hg
  begun := le_rfl

/-- A lookup that holds another pricing puts it where the next one finds it. -/
theorem stale_of_loaded (convert : Convert) {i : ℕ} {modelKey : String} {p : DecimalPricing}
    (hg : w.gets[i]? = some { modelKey := modelKey, pc := .loaded p }) :
    ∃ w', exec (step convert) w
        [.invalidate modelKey, .cacheSet i, .call modelKey, .cacheGet w.gets.length] = some w' ∧
      w'.gets[w.gets.length]? = some { modelKey := modelKey, pc := .returned (some p) } := by
  let g : GetCall := { modelKey := modelKey, pc := .loaded p }
  let w₁ : World := { w with redis := w.redis.delete (cacheNs ++ modelKey) }
  let w₂ : World :=
    { w₁.advance i g (.returned (some p)) with redis := cacheSet w₁.redis w.now modelKey p }
  let w₃ : World := { w₂ with gets := w₂.gets ++ [{ modelKey := modelKey, pc := .reading }] }
  have hlength : w₂.gets.length = w.gets.length := List.length_set
  have hset : step convert w₁ (.cacheSet i) = some w₂ :=
    Option.bind_eq_some_iff.2 ⟨g, hg, rfl⟩
  have hnew : w₃.gets[w.gets.length]? = some { modelKey := modelKey, pc := .reading } := by
    rw [← hlength]
    exact List.getElem?_concat_length
  have hlive : w.now ≤ w.now + cacheTtlS * 1000 := Int.le_add_of_nonneg_right (by decide)
  have hread : cacheGet convert w₃.redis w₃.now modelKey = .ok (some p) := by
    have hround := cacheGet_cacheSet convert w₁.redis w.now w.now modelKey p
    rwa [if_pos hlive] at hround
  have hget : step convert w₃ (.cacheGet w.gets.length) =
      some (w₃.advance w.gets.length { modelKey := modelKey, pc := .reading }
        (.returned (some p))) := by
    refine Option.bind_eq_some_iff.2 ⟨_, hnew, ?_⟩
    simp only [hread]
    rfl
  refine ⟨_, exec_cons.2 ⟨w₁, rfl, exec_cons.2 ⟨w₂, hset, exec_cons.2 ⟨w₃, rfl,
    exec_cons.2 ⟨_, hget, rfl⟩⟩⟩⟩, ?_⟩
  have hlt : w.gets.length < w₃.gets.length := (List.getElem?_eq_some_iff.1 hnew).1
  exact List.getElem?_set_self hlt

/-- An `invalidate` makes the later lookups return the row exactly when no lookup that is under way
holds another pricing. -/
theorem fresh_iff_settled (convert : Convert) (w : World) (modelKey : String) :
    Fresh convert w modelKey ↔ Settled w modelKey := by
  constructor
  · intro hfresh i g p hg hkey hpc
    rcases g with ⟨key, pc⟩
    cases hkey
    cases hpc
    rcases stale_of_loaded convert hg with ⟨w', hrun, hstale⟩
    have hrows : ∀ rows, Label.commit rows ∈
        [.cacheSet i, .call key, .cacheGet w.gets.length] → rows key = w.rows key := by
      intro rows hmem
      simp at hmem
    exact hfresh _ w' hrun hrows _ _ _ le_rfl hstale rfl rfl
  · intro hsettled later w' hrun hrows
    rcases exec_cons.1 hrun with ⟨w₁, hstep, hrest⟩
    cases hstep
    have hguarded : Guarded (step convert)
        (fun _ l => ∀ rows', l = .commit rows' → rows' modelKey = w.rows modelKey)
        { w with redis := w.redis.delete (cacheNs ++ modelKey) } later :=
      guarded_of_forall fun l hl rows' hcommit => hrows rows' (hcommit ▸ hl)
    have hkept : Kept w.rows modelKey w.gets.length w' :=
      exec_invariant_of_guarded (fun _ _ _ hkept hl hstep => hkept.step hl hstep)
        (kept_of_settled hsettled) hguarded hrest
    exact hkept.returned

end Races
end PricingRepository
end Backend
end OpenRouter
