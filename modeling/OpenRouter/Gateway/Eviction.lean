import OpenRouter.Gateway.AuthCache

/-!
# Eviction — what `put` takes out of a full cache

`Cache.put` of `auth/cache.go` evicts an entry whenever the map is full, whether or not the key it
stores is in the map already.  The map never outgrows its capacity (`sized_of_run`);
`makesRoom_iff_refreshesItself` says in which runs an entry goes only where room is needed.
-/

namespace OpenRouter
namespace Gateway
namespace AuthCache

open Base

/-! ## The size of the map -/

namespace Cache

/-- `len(c.data)`. -/
def size (c : Cache) : ℕ :=
  c.data.keys.length

/-- The map holds at most `cap` entries. -/
def Sized (c : Cache) : Prop :=
  c.size ≤ c.cap

theorem full_iff {c : Cache} : c.full = true ↔ c.cap ≤ c.size := by
  simp [full, size]

/-- Storing under one key takes no more than one place. -/
theorem length_keys_insert_le (data : AList fun _ : String => Metadata) (key : String)
    (m : Metadata) : (data.insert key m).keys.length ≤ data.keys.length + 1 := by
  rw [AList.keys_insert, List.length_cons]
  exact Nat.succ_le_succ List.length_erase_le

theorem Sized.put {c : Cache} {victim key : String} {m : Metadata} (h : c.Sized)
    (hvictim : c.full = true → victim ∈ c.data) : (c.put victim key m).Sized := by
  unfold Cache.put
  split
  · rename_i hfull
    have hmem : victim ∈ c.data.keys := AList.mem_keys.1 (hvictim hfull)
    have hpos : 0 < c.data.keys.length := List.length_pos_of_mem hmem
    have herase : (c.data.erase victim).keys.length = c.data.keys.length - 1 := by
      rw [AList.keys_erase, List.length_erase_of_mem hmem]
    have hinsert := length_keys_insert_le (c.data.erase victim) key m
    have hsized : c.data.keys.length ≤ c.cap := h
    show ((c.data.erase victim).insert key m).keys.length ≤ c.cap
    omega
  · rename_i hroom
    rw [full_iff, Nat.not_le] at hroom
    have hinsert := length_keys_insert_le c.data key m
    have hlt : c.data.keys.length < c.cap := hroom
    show (c.data.insert key m).keys.length ≤ c.cap
    omega

theorem Sized.invalidate {c : Cache} (h : c.Sized) (key : String) : (c.invalidate key).Sized := by
  have hle : (c.data.erase key).keys.length ≤ c.data.keys.length := by
    rw [AList.keys_erase]
    exact List.length_erase_le
  exact Nat.le_trans hle h

/-- What a put that evicts leaves under the other keys. -/
theorem lookup_put_of_full {c : Cache} {victim key other : String} {m : Metadata}
    (hfull : c.full = true) (hne : other ≠ key) :
    (c.put victim key m).data.lookup other =
      if other = victim then none else c.data.lookup other := by
  rw [put, if_pos hfull, AList.lookup_insert_ne hne]
  by_cases hother : other = victim
  · rw [if_pos hother, hother, AList.lookup_erase]
  · rw [if_neg hother, AList.lookup_erase_ne hother]

/-- A put into a map with room leaves the other keys alone. -/
theorem lookup_put_of_room {c : Cache} {victim key other : String} {m : Metadata}
    (hroom : ¬ c.full = true) (hne : other ≠ key) :
    (c.put victim key m).data.lookup other = c.data.lookup other := by
  rw [put, if_neg hroom, AList.lookup_insert_ne hne]

end Cache

theorem newCache_sized {size ttl : ℤ} {loaders : ℕ} {c : Cache}
    (h : newCache size ttl loaders = .ok c) : c.Sized := by
  unfold newCache at h
  split at h
  · cases h
  · split at h
    · cases h
    · cases h
      exact Nat.zero_le _

/-! ## What is promised of a put -/

/-- `c'` is `c` with `m` under `key`; another entry is gone only if the key was not there and the
map was full, and then exactly one is. -/
structure MakesRoom (c : Cache) (key : String) (m : Metadata) (c' : Cache) : Prop where
  bound : c'.data.lookup key = some m
  kept : key ∈ c.data ∨ ¬ c.full = true →
    ∀ other, other ≠ key → c'.data.lookup other = c.data.lookup other
  evicted : key ∉ c.data → c.full = true →
    ∃ victim ∈ c.data, ∀ other, other ≠ key →
      c'.data.lookup other = if other = victim then none else c.data.lookup other

/-- The step leaves the map within its capacity, and it makes no more room than it needs. -/
def Lawful (s : System) (l : Label) : Prop :=
  ∀ t, step s l = some t → t.cache.Sized ∧
    ∀ i victim g m, l = .put i victim → s.gets[i]? = some g → g.pc = .stamped m →
      MakesRoom s.cache g.key m t.cache

/-- A put that refreshes a key of a full map evicts the key's own entry. -/
def RefreshesItself (s : System) : Label → Prop
  | .put i victim =>
      ∀ g m, s.gets[i]? = some g → g.pc = .stamped m → s.cache.full = true →
        g.key ∈ s.cache.data → victim ∈ s.cache.data → victim = g.key
  | _ => True

/-! ## One step -/

/-- When `put` is taken, and what it leaves. -/
theorem step_put_iff {s t : System} {i : ℕ} {victim : String} :
    step s (.put i victim) = some t ↔
      ∃ g m, s.gets[i]? = some g ∧ g.pc = .stamped m ∧
        (s.cache.full = true → victim ∈ s.cache.data) ∧
        t = { s.advance i g (.returned (.ok m)) with cache := s.cache.put victim g.key m } := by
  constructor
  · intro h
    rcases Option.bind_eq_some_iff.1 h with ⟨g, hg, h⟩
    cases hpc : g.pc with
    | stamped m =>
        simp only [hpc] at h
        split at h
        · rename_i hvictim
          cases h
          exact ⟨g, m, hg, hpc, hvictim, rfl⟩
        · cases h
    | _ => simp [hpc] at h
  · rintro ⟨g, m, hg, hpc, hvictim, rfl⟩
    simpa [step, System.onCall, hg, hpc] using hvictim

theorem sized_of_step {s t : System} {l : Label} (hs : s.cache.Sized)
    (h : step s l = some t) : t.cache.Sized := by
  -- Only a put makes the map larger.
  cases l with
  | put i victim =>
      rcases step_put_iff.1 h with ⟨g, m, -, -, hvictim, rfl⟩
      exact hs.put hvictim
  | invalidate key =>
      cases h
      exact hs.invalidate key
  | _ =>
      cases effect_of_step h
      all_goals exact hs

/-- Whatever a run does, the map stays within its capacity. -/
theorem sized_of_run {s t : System} {labels : List Label} (hs : s.cache.Sized)
    (h : exec step s labels = some t) : t.cache.Sized := by
  have hstep : ∀ s l t, s.cache.Sized → step s l = some t → t.cache.Sized :=
    fun _ _ _ => sized_of_step
  exact exec_invariant hstep hs h

/-- A put makes exactly the room it needs unless it refreshes one entry and evicts another. -/
theorem makesRoom_put_iff {c : Cache} {victim key : String} {m : Metadata}
    (hvictim : c.full = true → victim ∈ c.data) :
    MakesRoom c key m (c.put victim key m) ↔
      (c.full = true → key ∈ c.data → victim = key) := by
  constructor
  · intro h hfull hkey
    by_contra hne
    -- The key was there, so the victim should have been kept, but it is gone.
    have hkept := h.kept (Or.inl hkey) victim hne
    rw [Cache.lookup_put_of_full hfull hne, if_pos rfl] at hkept
    exact AList.lookup_eq_none.1 hkept.symm (hvictim hfull)
  · intro hself
    refine
      { bound := Cache.lookup_put_self c victim key m
        kept := fun hwhy other hne => ?_
        evicted := fun hkey hfull => ?_ }
    · by_cases hfull : c.full = true
      -- A full map is left alone only for a key that it has, and that one is the victim.
      · have hkey : key ∈ c.data := hwhy.resolve_right (not_not.2 hfull)
        rw [Cache.lookup_put_of_full hfull hne, if_neg (hself hfull hkey ▸ hne)]
      · exact Cache.lookup_put_of_room hfull hne
    · exact ⟨victim, hvictim hfull, fun other hne => Cache.lookup_put_of_full hfull hne⟩

theorem lawful_step_iff {s : System} (hs : s.cache.Sized) (l : Label) :
    Lawful s l ↔ RefreshesItself s l := by
  cases l with
  | put i victim =>
      constructor
      · intro h g m hg hpc hfull hkey hmem
        have hstep := step_put_iff.2 ⟨g, m, hg, hpc, fun _ => hmem, rfl⟩
        have hroom := (h _ hstep).2 i victim g m rfl hg hpc
        exact (makesRoom_put_iff fun _ => hmem).1 hroom hfull hkey
      · intro h t hstep
        refine ⟨sized_of_step hs hstep, ?_⟩
        intro j victim' g m hput hg hpc
        cases hput
        rcases step_put_iff.1 hstep with ⟨g', m', hg', hpc', hvictim, rfl⟩
        obtain rfl : g = g' := Option.some.inj (hg.symm.trans hg')
        obtain rfl : m = m' := by simpa using hpc.symm.trans hpc'
        refine (makesRoom_put_iff hvictim).2 fun hfull hkey => ?_
        exact h g m hg hpc hfull hkey (hvictim hfull)
  | _ =>
      refine iff_of_true (fun t hstep => ⟨sized_of_step hs hstep, ?_⟩) trivial
      rintro i victim g m ⟨⟩

/-! ## Runs -/

/-- In a run of a new cache every step keeps the map within its capacity and every put makes
exactly the room it needs, if and only if every put that refreshes a key of a full map evicts the
key's own entry. -/
theorem makesRoom_iff_refreshesItself {size ttl : ℤ} {loaders : ℕ} {c : Cache}
    (hnew : newCache size ttl loaders = .ok c) (now : ℤ) (store : String → Option Metadata)
    (labels : List Label) :
    let s : System := { now := now, store := store, cache := c, gets := [] }
    (∀ t, exec step s labels = some t → t.cache.Sized) ∧
      (Guarded step Lawful s labels ↔ Guarded step RefreshesItself s labels) := by
  intro s
  have hs : s.cache.Sized := newCache_sized hnew
  refine ⟨fun t => sized_of_run hs, ?_⟩
  have hlaw : ∀ s l, s.cache.Sized → (Lawful s l ↔ RefreshesItself s l) :=
    fun _ l hs => lawful_step_iff hs l
  exact guarded_iff hlaw (fun _ _ _ hs _ h => sized_of_step hs h) hs

/-- A cache of two entries and of one minute, over a store that has every key. -/
def twoEntries : Cache where
  ttl := 60000000000
  loaders := 1
  data := ∅
  cap := 2
  loaders_pos := Nat.one_pos
  cap_pos := Nat.two_pos

/-- The cache over a store that knows every key. -/
def allKnown : System where
  now := 0
  store key := some { valid := true, keyID := key }
  cache := twoEntries
  gets := []

/-- A call of `Get` up to its put. -/
def loading (i : ℕ) (key : String) : List Label :=
  [.call key, .read i, .load i .content, .stamp i]

/-- Two keys are loaded, and the first of them once more when it has expired. -/
def expired : List Label :=
  loading 0 "a" ++ .put 0 "" :: loading 1 "b" ++ .put 1 "" :: .tick 60000000000 :: loading 2 "a"

/-- The first entry of a full map is refreshed in its own place. -/
theorem makesRoom_iff_refreshesItself_twoEntries :
    (∃ t, exec step allKnown (expired ++ [.put 2 "a"]) = some t ∧
        (t.cache.data.lookup "a").isSome ∧ (t.cache.data.lookup "b").isSome) ∧
      (∀ t, exec step allKnown (expired ++ [.put 2 "a"]) = some t → t.cache.Sized) ∧
      (Guarded step Lawful allKnown (expired ++ [.put 2 "a"]) ↔
        Guarded step RefreshesItself allKnown (expired ++ [.put 2 "a"])) := by
  have hiff := @makesRoom_iff_refreshesItself 2 60000000000 1 twoEntries rfl 0 allKnown.store
    (expired ++ [Label.put 2 "a"])
  refine ⟨?_, hiff⟩
  have hrun : (exec step allKnown (expired ++ [.put 2 "a"])).map (fun t =>
      ((t.cache.data.lookup "a").isSome, (t.cache.data.lookup "b").isSome)) =
      some (true, true) := by
    decide +kernel
  rcases Option.map_eq_some_iff.1 hrun with ⟨t, ht, hlook⟩
  exact ⟨t, ht, (Prod.mk.inj hlook).1, (Prod.mk.inj hlook).2⟩

/-- The first entry is refreshed and pushes out the other one. -/
theorem refresh_evicts_another :
    ∃ u t, exec step allKnown expired = some u ∧ (u.cache.data.lookup "a").isSome ∧
      (u.cache.data.lookup "b").isSome ∧ step u (.put 2 "b") = some t ∧
      t.cache.data.lookup "b" = none ∧ ¬ Lawful u (.put 2 "b") := by
  have hrun : ((exec step allKnown expired).bind fun u => (step u (.put 2 "b")).map fun t =>
      ((u.gets[2]?.map fun g => g.key), (u.cache.data.lookup "a").isSome,
        (u.cache.data.lookup "b").isSome, (t.cache.data.lookup "b").isSome)) =
      some (some "a", true, true, false) := by
    decide +kernel
  rcases Option.bind_eq_some_iff.1 hrun with ⟨u, hu, hput⟩
  rcases Option.map_eq_some_iff.1 hput with ⟨t, ht, hlook⟩
  simp only [Prod.mk.injEq, Option.isSome_eq_false_iff, Option.isNone_iff_eq_none] at hlook
  rcases hlook with ⟨hkey, ha, hb, hgone⟩
  refine ⟨u, t, hu, ha, hb, ht, hgone, fun h => ?_⟩
  rcases step_put_iff.1 ht with ⟨g, m, hg, hpc, -, -⟩
  rw [hg, Option.map_some, Option.some.injEq] at hkey
  have hroom := (h t ht).2 2 "b" g m rfl hg hpc
  -- The key was there, so that no other entry should be gone.
  have hkept := hroom.kept (.inl (AList.lookup_isSome.1 (hkey ▸ ha))) "b" (by simp [hkey])
  rw [← hkept, hgone] at hb
  cases hb

end AuthCache
end Gateway
end OpenRouter
