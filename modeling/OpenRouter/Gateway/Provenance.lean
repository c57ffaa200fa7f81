import OpenRouter.Gateway.AuthCache

/-!
# Provenance — where the metadata that `Get` returns comes from

A run of the cache is logged: what every loader answered to which call, which answers were stamped
and what was returned, each with its instant.  `Justified` traces a returned entry back to the
answers of the loaders; `provenance_of_run` says that every return of every run is justified.
-/

namespace OpenRouter
namespace Gateway
namespace AuthCache

open Base

/-! ## The log of a run -/

/-- What the calls of `Get` show; the index is the call's. -/
inductive Event
  | loaded (i : ℕ) (key : String) (m : Metadata)
  /-- `ErrCacheMiss` from the loader at a position. -/
  | missed (i : ℕ) (key : String) (loader : ℕ)
  | stamped (i : ℕ) (key : String) (m : Metadata)
  /-- A return without an error. -/
  | returned (i : ℕ) (key : String) (m : Metadata)

/-- The loader that a call is about to ask, with `left` more behind it. -/
def System.loader (s : System) (left : ℕ) : ℕ :=
  s.cache.loaders - 1 - left

/-- What the step of a label shows, with its instant. -/
def shown (s : System) : Label → Option (ℤ × Event)
  | .read i => do
      let g ← s.gets[i]?
      let m ← s.cache.read s.now g.key
      return (s.now, .returned i g.key m)
  | .load i answer => do
      let g ← s.gets[i]?
      match g.pc, answer with
      | .loading _, .content =>
          let m ← s.store g.key
          return (s.now, .loaded i g.key m)
      | .loading left, .miss => return (s.now, .missed i g.key (s.loader left))
      | _, _ => none
  | .stamp i => do
      let g ← s.gets[i]?
      match g.pc with
      | .answered m => return (s.now, .stamped i g.key { m with cachedAt := s.now })
      | _ => none
  | .put i _ => do
      let g ← s.gets[i]?
      match g.pc with
      | .stamped m => return (s.now, .returned i g.key m)
      | _ => none
  | _ => none

abbrev Log : Type :=
  List (ℤ × Event)

/-! ## Provenance -/

/-- `m` is what a loader answered call `j` for `key`, or the negative entry and every loader
answered the call that it misses the key; `within` holds of the instants of the answers. -/
def Source (loaders : ℕ) (past : Log) (j : ℕ) (key : String) (m : Metadata) (within : ℤ → Prop) :
    Prop :=
  (∃ t₀ m₀, (t₀, .loaded j key m₀) ∈ past ∧ m = { m₀ with cachedAt := m.cachedAt } ∧ within t₀) ∨
    (m = { cachedAt := m.cachedAt } ∧
      ∀ n < loaders, ∃ t₀, (t₀, .missed j key n) ∈ past ∧ within t₀)

/-- A return at `t` is of answers to the call itself, or of answers that another call stamped less
than `ttl` before. -/
def Justified (ttl : ℤ) (loaders : ℕ) (past : Log) : ℤ × Event → Prop
  | (t, .returned i key m) =>
      ∃ j t₁, (t₁, .stamped j key m) ∈ past ∧ m.cachedAt = t₁ ∧
        Source loaders past j key m (fun t₀ => t₀ ≤ t₁) ∧ (j = i ∨ t - t₁ < ttl)
  | _ => True

/-- A return at `t` is of answers to the call itself, or of answers that came less than `ttl`
before. -/
def AnsweredWithin (ttl : ℤ) (loaders : ℕ) (past : Log) : ℤ × Event → Prop
  | (t, .returned i key m) =>
      ∃ j, Source loaders past j key m fun t₀ => j = i ∨ t - t₀ < ttl
  | _ => True

/-- Every event of a log stands to what came before it. -/
def Throughout (r : Log → ℤ × Event → Prop) : Log → Prop
  | [] => True
  | e :: past => r past e ∧ Throughout r past

theorem Source.mono {loaders : ℕ} {past past' : Log} {j : ℕ} {key : String} {m : Metadata}
    {within within' : ℤ → Prop} (h : Source loaders past j key m within) (hpast : past ⊆ past')
    (hwithin : ∀ t, within t → within' t) : Source loaders past' j key m within' := by
  rcases h with ⟨t₀, m₀, hmem, hm, ht⟩ | ⟨hm, hall⟩
  · exact .inl ⟨t₀, m₀, hpast hmem, hm, hwithin t₀ ht⟩
  · refine .inr ⟨hm, ?_⟩
    intro n hn
    rcases hall n hn with ⟨t₀, hmem, ht⟩
    exact ⟨t₀, hpast hmem, hwithin t₀ ht⟩

/-- A stamp replaces `cachedAt` only, so the answer is still the one that was loaded. -/
theorem Source.stamp {loaders : ℕ} {past : Log} {j : ℕ} {key : String} {m : Metadata}
    {within : ℤ → Prop} (h : Source loaders past j key m within) (t : ℤ) :
    Source loaders past j key { m with cachedAt := t } within := by
  rcases h with ⟨t₀, m₀, hmem, hm, ht⟩ | ⟨hm, hall⟩
  · exact .inl ⟨t₀, m₀, hmem, by rw [hm], ht⟩
  · exact .inr ⟨by rw [hm], hall⟩

/-! ## What a step can do, and show -/

/-- What the step of a label shows and leaves. -/
inductive Shown (s : System) : Label → Log → System → Prop
  | quiet {l : Label} {t : System} (hgets : t.gets = s.gets) (hdata : t.cache = s.cache)
      (hnow : s.now ≤ t.now) : Shown s l [] t
  | call (key : String) :
      Shown s (.call key) [] { s with gets := s.gets ++ [{ key := key, pc := .reading }] }
  | invalidate (key : String) :
      Shown s (.invalidate key) [] { s with cache := s.cache.invalidate key }
  | hit {i : ℕ} {g : GetCall} {m : Metadata} (hg : s.gets[i]? = some g)
      (hread : s.cache.read s.now g.key = some m) :
      Shown s (.read i) [(s.now, .returned i g.key m)] (s.advance i g (.returned (.ok m)))
  | fall {i : ℕ} {g : GetCall} (hg : s.gets[i]? = some g) :
      Shown s (.read i) [] (s.advance i g (.loading (s.cache.loaders - 1)))
  | loaded {i left : ℕ} {g : GetCall} {m : Metadata} (hg : s.gets[i]? = some g)
      (hpc : g.pc = .loading left) (hstore : s.store g.key = some m) :
      Shown s (.load i .content) [(s.now, .loaded i g.key m)] (s.advance i g (.answered m))
  | missed {i left : ℕ} {g : GetCall} (hg : s.gets[i]? = some g)
      (hpc : g.pc = .loading (left + 1)) :
      Shown s (.load i .miss) [(s.now, .missed i g.key (s.loader (left + 1)))]
        (s.advance i g (.loading left))
  | missedLast {i : ℕ} {g : GetCall} (hg : s.gets[i]? = some g) (hpc : g.pc = .loading 0) :
      Shown s (.load i .miss) [(s.now, .missed i g.key (s.loader 0))] (s.advance i g (.answered {}))
  | failed {i : ℕ} {g : GetCall} {err : String} (hg : s.gets[i]? = some g) :
      Shown s (.load i (.failed err)) [] (s.advance i g (.returned (.error err)))
  | stamped {i : ℕ} {g : GetCall} {m : Metadata} (hg : s.gets[i]? = some g)
      (hpc : g.pc = .answered m) :
      Shown s (.stamp i) [(s.now, .stamped i g.key { m with cachedAt := s.now })]
        (s.advance i g (.stamped { m with cachedAt := s.now }))
  | put {i : ℕ} {victim : String} {g : GetCall} {m : Metadata} (hg : s.gets[i]? = some g)
      (hpc : g.pc = .stamped m) :
      Shown s (.put i victim) [(s.now, .returned i g.key m)]
        { s.advance i g (.returned (.ok m)) with cache := s.cache.put victim g.key m }

theorem shown_of_load {s t : System} {i : ℕ} {answer : Answer}
    (h : step s (.load i answer) = some t) :
    Shown s (.load i answer) (shown s (.load i answer)).toList t := by
  rcases Option.bind_eq_some_iff.1 h with ⟨g, hg, h⟩
  cases hpc : g.pc with
  | loading left =>
      simp only [hpc] at h
      rcases Option.map_eq_some_iff.1 h with ⟨pc, hload, rfl⟩
      cases answer with
      | content =>
          rcases Option.map_eq_some_iff.1 hload with ⟨m, hstore, rfl⟩
          simpa [shown, hg, hpc, hstore] using Shown.loaded hg hpc hstore
      | miss =>
          -- The last loader answers with a key that is not valid.
          cases left with
          | zero =>
              cases hload
              simpa [shown, hg, hpc] using Shown.missedLast hg hpc
          | succ left =>
              cases hload
              simpa [shown, hg, hpc] using Shown.missed hg hpc
      | failed err =>
          cases hload
          have hfailed : Shown s (.load i (.failed err)) []
              (s.advance i g (.returned (.error err))) := .failed hg
          simpa [shown, hg, hpc] using hfailed
  | _ => simp [hpc] at h

theorem shown_of_step {s t : System} {l : Label} (h : step s l = some t) :
    Shown s l (shown s l).toList t := by
  cases l with
  | tick d =>
      cases h
      exact .quiet rfl rfl (by simp)
  | record key content =>
      cases h
      exact .quiet rfl rfl le_rfl
  | call key =>
      cases h
      exact .call key
  | read i =>
      rcases Option.bind_eq_some_iff.1 h with ⟨g, hg, h⟩
      cases hpc : g.pc with
      | reading =>
          cases hread : s.cache.read s.now g.key with
          | some m =>
              simp only [hpc, hread] at h
              cases h
              simpa [shown, hg, hread] using Shown.hit hg hread
          | none =>
              simp only [hpc, hread] at h
              cases h
              simpa [shown, hg, hread] using Shown.fall hg
      | _ => simp [hpc] at h
  | load i answer => exact shown_of_load h
  | stamp i =>
      rcases Option.bind_eq_some_iff.1 h with ⟨g, hg, h⟩
      cases hpc : g.pc with
      | answered m =>
          simp only [hpc] at h
          cases h
          simpa [shown, hg, hpc] using Shown.stamped hg hpc
      | _ => simp [hpc] at h
  | put i victim =>
      rcases Option.bind_eq_some_iff.1 h with ⟨g, hg, h⟩
      cases hpc : g.pc with
      | stamped m =>
          simp only [hpc] at h
          -- The victim must be an entry of a full map.
          split at h
          · cases h
            have hput : Shown s (.put i victim) [(s.now, .returned i g.key m)] _ :=
              Shown.put hg hpc
            simpa [shown, hg, hpc] using hput
          · cases h
      | _ => simp [hpc] at h
  | invalidate key =>
      cases h
      exact .invalidate key

/-! ## The invariant -/

/-- What the log holds about an entry that is stamped. -/
def Stamped (loaders : ℕ) (past : Log) (key : String) (m : Metadata) : Prop :=
  ∃ j, (m.cachedAt, .stamped j key m) ∈ past ∧
    Source loaders past j key m fun t₀ => t₀ ≤ m.cachedAt

/-- What the log holds about a call at `pc`. -/
def PcLogged (loaders : ℕ) (now : ℤ) (past : Log) (i : ℕ) (key : String) : Pc → Prop
  | .loading left =>
      left < loaders ∧
        ∀ n < loaders - 1 - left, ∃ t₀, (t₀, .missed i key n) ∈ past ∧ t₀ ≤ now
  | .answered m => Source loaders past i key m fun t₀ => t₀ ≤ now
  | .stamped m =>
      (m.cachedAt, .stamped i key m) ∈ past ∧
        Source loaders past i key m fun t₀ => t₀ ≤ m.cachedAt
  | _ => True

structure Logged (ttl : ℤ) (loaders : ℕ) (s : System) (past : Log) : Prop where
  ttl_eq : s.cache.ttl = ttl
  loaders_eq : s.cache.loaders = loaders
  cached : ∀ key m, s.cache.data.lookup key = some m → Stamped loaders past key m
  calls : AllAt (fun i g => PcLogged loaders s.now past i g.key g.pc) s.gets
  justified : Throughout (Justified ttl loaders) past

theorem Stamped.mono {loaders : ℕ} {past past' : Log} {key : String} {m : Metadata}
    (h : Stamped loaders past key m) (hpast : past ⊆ past') : Stamped loaders past' key m := by
  rcases h with ⟨j, hmem, hsource⟩
  exact ⟨j, hpast hmem, hsource.mono hpast fun _ ht => ht⟩

theorem PcLogged.mono {loaders : ℕ} {now now' : ℤ} {past past' : Log} {i : ℕ} {key : String}
    {pc : Pc} (h : PcLogged loaders now past i key pc) (hnow : now ≤ now')
    (hpast : past ⊆ past') : PcLogged loaders now' past' i key pc := by
  cases pc with
  | loading left =>
      refine ⟨h.1, ?_⟩
      intro n hn
      rcases h.2 n hn with ⟨t₀, hmem, ht⟩
      exact ⟨t₀, hpast hmem, ht.trans hnow⟩
  | answered m => exact Source.mono h hpast fun _ ht => ht.trans hnow
  | stamped m => exact ⟨hpast h.1, h.2.mono hpast fun _ ht => ht⟩
  | _ => trivial

/-- An L0 hit is an entry that was stamped less than `ttl` ago. -/
theorem lookup_of_read {c : Cache} {now : ℤ} {key : String} {m : Metadata}
    (h : c.read now key = some m) : c.data.lookup key = some m ∧ now - m.cachedAt < c.ttl := by
  unfold Cache.read at h
  cases hlook : c.data.lookup key with
  | none => simp [hlook] at h
  | some m' =>
      simp only [hlook] at h
      split_ifs at h with hfresh
      cases h
      exact ⟨rfl, hfresh⟩

namespace Logged

variable {ttl : ℤ} {loaders : ℕ} {s : System} {past : Log} {i : ℕ} {g : GetCall} {pc : Pc}

/-- A move of one call that leaves the cache, and what it shows. -/
theorem advance {e : Log} (h : Logged ttl loaders s past)
    (hpc : PcLogged loaders s.now (e ++ past) i g.key pc)
    (he : Throughout (Justified ttl loaders) (e ++ past)) :
    Logged ttl loaders (s.advance i g pc) (e ++ past) := by
  have hpast : past ⊆ e ++ past := List.subset_append_right e past
  refine
    { ttl_eq := h.ttl_eq
      loaders_eq := h.loaders_eq
      cached := fun key m hm => (h.cached key m hm).mono hpast
      calls := ?_
      justified := he }
  -- The other calls keep what the log holds about them, since it only grows.
  have hcalls : AllAt (fun i g => PcLogged loaders s.now (e ++ past) i g.key g.pc) s.gets :=
    h.calls.mono fun _ _ hg => hg.mono le_rfl hpast
  exact hcalls.set hpc

/-- An event that is no return is justified. -/
theorem throughout_cons {e : ℤ × Event} (h : Logged ttl loaders s past)
    (he : Justified ttl loaders past e) : Throughout (Justified ttl loaders) (e :: past) :=
  ⟨he, h.justified⟩

/-- With one more miss, the call is at the next loader. -/
theorem missed_lt {left n : ℕ} (hcall : PcLogged loaders s.now past i g.key (.loading left))
    (hn : n < loaders - left) (hloaders : s.cache.loaders = loaders) :
    ∃ t₀, (t₀, .missed i g.key n) ∈ (s.now, Event.missed i g.key (s.loader left)) :: past ∧
      t₀ ≤ s.now := by
  -- Either this is the new miss, or one that the log had already.
  by_cases hlast : n = s.loader left
  · exact ⟨s.now, by simp [hlast], le_rfl⟩
  · have hlt : n < loaders - 1 - left := by
      unfold System.loader at hlast
      omega
    rcases hcall.2 n hlt with ⟨t₀, hmem, ht⟩
    exact ⟨t₀, List.mem_cons_of_mem _ hmem, ht⟩

theorem call (h : Logged ttl loaders s past) (hg : s.gets[i]? = some g) (hpc : g.pc = pc) :
    PcLogged loaders s.now past i g.key pc :=
  hpc ▸ h.calls i g hg

/-- After a put every entry is one that was there, or the one that was put. -/
theorem stamped_of_put {victim key other : String} {m m' : Metadata}
    (h : Logged ttl loaders s past) (hm : Stamped loaders past key m)
    (hother : (s.cache.put victim key m).data.lookup other = some m') :
    Stamped loaders past other m' := by
  by_cases hkey : other = key
  · subst hkey
    rw [Cache.lookup_put_self] at hother
    cases hother
    exact hm
  · exact h.cached other m' (Cache.lookup_put_of_ne hkey hother)

/-- A return after a put is justified by the call's own stamp, and so is the entry it stores. -/
theorem put {victim : String} {m : Metadata} (h : Logged ttl loaders s past)
    (hg : s.gets[i]? = some g) (hpc : g.pc = .stamped m) :
    Logged ttl loaders
      { s.advance i g (.returned (.ok m)) with cache := s.cache.put victim g.key m }
      ((s.now, .returned i g.key m) :: past) := by
  have hcall := h.call hg hpc
  have hjust : Justified ttl loaders past (s.now, .returned i g.key m) :=
    ⟨i, m.cachedAt, hcall.1, rfl, hcall.2, .inl rfl⟩
  have hmoved : Logged ttl loaders (s.advance i g (.returned (.ok m)))
      ([(s.now, .returned i g.key m)] ++ past) :=
    h.advance trivial (h.throughout_cons hjust)
  refine { hmoved with ttl_eq := ?_, loaders_eq := ?_, cached := ?_ }
  · exact (Cache.ttl_put ..).trans h.ttl_eq
  · exact (Cache.loaders_put ..).trans h.loaders_eq
  · intro other m' hother
    exact (h.stamped_of_put ⟨i, hcall⟩ hother).mono (List.subset_cons_self _ _)

/-- What a step shows keeps the log in step with the state. -/
theorem of_shown {t : System} {l : Label} {e : Log} (h : Logged ttl loaders s past)
    (hshown : Shown s l e t) : Logged ttl loaders t (e ++ past) := by
  cases hshown with
  | quiet hgets hdata hnow =>
      refine
        { ttl_eq := by rw [hdata]; exact h.ttl_eq
          loaders_eq := by rw [hdata]; exact h.loaders_eq
          cached := by rw [hdata]; exact h.cached
          calls := ?_
          justified := h.justified }
      -- The clock may go on, which leaves every instant of a call in the past.
      rw [hgets]
      exact h.calls.mono fun _ _ hg => hg.mono hnow (List.Subset.refl past)
  | call key =>
      exact
        { ttl_eq := h.ttl_eq
          loaders_eq := h.loaders_eq
          cached := h.cached
          calls := h.calls.concat trivial
          justified := h.justified }
  | invalidate key =>
      refine { h with cached := ?_ }
      intro other m hm
      -- An invalidation only takes entries away.
      by_cases hother : other = key
      · subst hother
        simp at hm
      · rw [Cache.lookup_invalidate_of_ne hother] at hm
        exact h.cached other m hm
  | @hit i g m hg hread =>
      -- The entry was stamped by some call, less than `ttl` ago, and that stamp is in the log.
      rcases lookup_of_read hread with ⟨hlook, hfresh⟩
      rcases h.cached g.key m hlook with ⟨j, hmem, hsource⟩
      have hjust : Justified ttl loaders past (s.now, .returned i g.key m) := by
        refine ⟨j, m.cachedAt, hmem, rfl, hsource, .inr ?_⟩
        rw [← h.ttl_eq]
        exact hfresh
      exact h.advance (e := [_]) trivial (h.throughout_cons hjust)
  | fall hg =>
      refine h.advance (e := []) ⟨?_, ?_⟩ h.justified
      -- At the first loader no miss is owed yet.
      · have hpos := s.cache.loaders_pos
        rw [h.loaders_eq] at hpos ⊢
        exact Nat.sub_lt hpos Nat.zero_lt_one
      · intro n hn
        rw [h.loaders_eq] at hn
        simp at hn
  | @loaded i left g m hg hpc hstore =>
      exact h.advance (e := [_])
        (.inl ⟨s.now, m, List.mem_cons_self, rfl, le_rfl⟩) (h.throughout_cons trivial)
  | @missed i left g hg hpc =>
      have hcall := h.call hg hpc
      refine h.advance (e := [_]) ⟨?_, ?_⟩ (h.throughout_cons trivial)
      · exact Nat.lt_of_succ_lt hcall.1
      · intro n hn
        -- The miss that is shown now is the one the next loader owes.
        have hn' : n < loaders - (left + 1) := by omega
        exact missed_lt hcall hn' h.loaders_eq
  | @missedLast i g hg hpc =>
      have hcall := h.call hg hpc
      refine h.advance (e := [_]) (.inr ⟨rfl, ?_⟩) (h.throughout_cons trivial)
      intro n hn
      exact missed_lt hcall hn h.loaders_eq
  | failed hg => exact h.advance (e := []) trivial h.justified
  | @stamped i g m hg hpc =>
      have hcall := h.call hg hpc
      have hsource : Source loaders past i g.key { m with cachedAt := s.now } (· ≤ s.now) :=
        Source.stamp hcall s.now
      have hstamped : PcLogged loaders s.now
          ((s.now, .stamped i g.key { m with cachedAt := s.now }) :: past) i g.key
          (.stamped { m with cachedAt := s.now }) :=
        ⟨List.mem_cons_self, hsource.mono (List.subset_cons_self _ _) fun _ ht => ht⟩
      exact h.advance (e := [_]) hstamped (h.throughout_cons trivial)
  | put hg hpc => exact h.put hg hpc

theorem of_step {r r' : System × Log} {l : Label} (h : Logged ttl loaders r.1 r.2)
    (hstep : logged step shown r l = some r') : Logged ttl loaders r'.1 r'.2 := by
  rcases Option.map_eq_some_iff.1 hstep with ⟨t, hs, rfl⟩
  exact h.of_shown (shown_of_step hs)

end Logged

/-! ## Runs -/

/-- A cache before its first call. -/
def System.start (cache : Cache) (store : String → Option Metadata) (now : ℤ) : System where
  now := now
  store := store
  cache := cache
  gets := []

/-- Every run has its log, so a statement about logs is one about all runs. -/
theorem exists_log_of_run {s t : System} {labels : List Label}
    (h : exec step s labels = some t) :
    ∃ log, exec (logged step shown) (s, []) labels = some (t, log) :=
  exec_logged.1 h

/-- In every run of a new cache, whatever the loaders answer, every return is of answers to that
call, or of answers for the same key that another call stamped less than `ttl` before. -/
theorem provenance_of_run {size ttl : ℤ} {loaders : ℕ} {cache : Cache}
    {store : String → Option Metadata} {now : ℤ} {labels : List Label} {t : System} {log : Log}
    (hnew : newCache size ttl loaders = .ok cache)
    (h : exec (logged step shown) (System.start cache store now, []) labels = some (t, log)) :
    Throughout (Justified ttl loaders) log := by
  unfold newCache at hnew
  split_ifs at hnew with hsize hloaders
  cases hnew
  have hstart : Logged ttl loaders (System.start
      { ttl := ttl
        loaders := loaders
        data := ∅
        cap := size.toNat
        loaders_pos := Nat.pos_of_ne_zero hloaders
        cap_pos := by omega } store now) [] := by
    refine
      { ttl_eq := rfl
        loaders_eq := rfl
        cached := ?_
        calls := ?_
        justified := trivial }
    · intro key m hm
      cases hm
    · intro i g hg
      cases hg
  have hend : Logged ttl loaders (t, log).1 (t, log).2 :=
    @exec_invariant _ _ _ (fun r => Logged ttl loaders r.1 r.2)
      (fun _ _ _ hr hstep => hr.of_step hstep) _ _ _ hstart h
  exact hend.justified

/-- A cache of one entry and one nanosecond, with one loader. -/
def smallCache : Cache where
  ttl := 1
  loaders := 1
  data := ∅
  cap := 1
  loaders_pos := Nat.one_pos
  cap_pos := Nat.one_pos

/-- A key is loaded and stamped `delay` later, and a second call asks for it at once. -/
def lateStamp (delay : ℕ) : List Label :=
  [.record "k" (some { valid := true }), .call "k", .read 0, .load 0 .content, .tick delay,
    .stamp 0, .put 0 "k", .call "k", .read 1]

/-- Both calls of the run return the loaded key. -/
theorem provenance_of_run_hit :
    ∃ t log, exec (logged step shown) (System.start smallCache (fun _ => none) 0, [])
        (lateStamp 0) = some (t, log) ∧ log.length = 4 ∧ Throughout (Justified 1 1) log := by
  refine ⟨_, _, rfl, rfl, ?_⟩
  exact @provenance_of_run 1 1 1 smallCache (fun _ => none) 0 (lateStamp 0) _ _ rfl rfl

/-- An answer that waits for its stamp is served when it is older than `ttl`. -/
theorem late_stamp_outlives_ttl :
    ¬ ∀ (size ttl : ℤ) (loaders : ℕ) (cache : Cache) (store : String → Option Metadata) (now : ℤ)
      (labels : List Label) (t : System) (log : Log),
      newCache size ttl loaders = .ok cache →
      exec (logged step shown) (System.start cache store now, []) labels = some (t, log) →
      Throughout (AnsweredWithin ttl loaders) log := by
  intro h
  rcases (h 1 1 1 smallCache (fun _ => none) 0 (lateStamp 1) _ _ rfl rfl).1 with ⟨j, hsource⟩
  rcases hsource with ⟨t₀, m₀, hmem, -, hwithin⟩ | ⟨hnegative, -⟩
  · -- The only answer in the log came at 0, to the first call.
    have hpast : (t₀, Event.loaded j "k" m₀) ∈
        ([(1, .returned 0 "k" { valid := true, cachedAt := 1 }),
          (1, .stamped 0 "k" { valid := true, cachedAt := 1 }),
          (0, .loaded 0 "k" { valid := true })] : Log) := hmem
    have hanswer : t₀ = 0 ∧ j = 0 := by
      simp only [List.mem_cons, Prod.mk.injEq, reduceCtorEq, and_false, false_or,
        Event.loaded.injEq, List.not_mem_nil, or_false] at hpast
      exact ⟨hpast.1, hpast.2.1⟩
    rcases hanswer with ⟨rfl, rfl⟩
    rcases hwithin with hj | hlt
    · cases hj
    · exact absurd hlt (by decide)
  · exact absurd (congrArg Metadata.valid hnegative) (by decide)

end AuthCache
end Gateway
end OpenRouter
