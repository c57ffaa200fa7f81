import Mathlib.Data.List.AList
import Mathlib.Data.Rat.Init
import Mathlib.Tactic.Linarith
import OpenRouter.Base.Transition

/-!
# AuthCache — the layered API-key cache under interleaving

`Cache` is the in-process layer of `auth/cache.go`.  `Cache.Get` takes its lock twice, for the L0
read and for `put`, and calls its loaders in between with no lock held; so `step` takes one such
piece of one call at a time, and a run of `step` is an interleaving of any number of calls with
`Invalidate` and with changes in the backing store.

The statement of interest is `RevocationHolds`: from a state on, no call that starts later
returns valid metadata for a key.  What decides it is what the calls still in flight carry
(`InFlightSpent`).
-/

namespace OpenRouter
namespace Gateway
namespace AuthCache

open Base

/-! ## Metadata -/

structure RateLimitPolicy where
  requestsPerMinute : UInt32 := 0
  tokensPerMinute : UInt32 := 0
  concurrentRequests : UInt32 := 0
  requestsPerDay : UInt32 := 0

structure BudgetPolicy where
  remainingCredits : ℚ := 0
  hardStop : Bool := false

/-- `auth.Metadata`; the defaults are Go's zero value, and `none` is the zero `ExpiresAt`.
Instants are in nanoseconds. -/
structure Metadata where
  valid : Bool := false
  keyID : String := ""
  orgID : String := ""
  userID : String := ""
  allowedModels : List String := []
  deniedModels : List String := []
  rateLimit : RateLimitPolicy := {}
  budget : BudgetPolicy := {}
  expiresAt : Option ℤ := none
  cachedAt : ℤ := 0

/-! ## The in-process layer -/

structure Cache where
  ttl : ℤ
  loaders : ℕ
  data : AList fun _ : String => Metadata
  cap : ℕ
  loaders_pos : 0 < loaders
  cap_pos : 0 < cap

/-- `NewCache`. -/
def newCache (size : ℤ) (ttl : ℤ) (loaders : ℕ) : Except String Cache :=
  if hsize : size ≤ 0 then
    .error ("invalid cache size: " ++ toString size)
  else if hloaders : loaders = 0 then
    .error "at least one loader required"
  else
    .ok
      { ttl := ttl
        loaders := loaders
        data := ∅
        cap := size.toNat
        loaders_pos := Nat.pos_of_ne_zero hloaders
        cap_pos := by omega }

namespace Cache

/-- The L0 read of `Get`. -/
def read (c : Cache) (now : ℤ) (key : String) : Option Metadata :=
  match c.data.lookup key with
  | some m => if now - m.cachedAt < c.ttl then some m else none
  | none => none

/-- `Invalidate`. -/
def invalidate (c : Cache) (key : String) : Cache :=
  { c with data := c.data.erase key }

/-- `len(c.data) >= c.cap`. -/
def full (c : Cache) : Bool :=
  c.cap ≤ c.data.keys.length

/-- `put`; `victim` is the entry that the range over a full map meets first. -/
def put (c : Cache) (victim key : String) (m : Metadata) : Cache :=
  if c.full then
    { c with data := (c.data.erase victim).insert key m }
  else
    { c with data := c.data.insert key m }

@[simp] theorem ttl_put (c : Cache) (victim key : String) (m : Metadata) :
    (c.put victim key m).ttl = c.ttl := by
  unfold put
  split <;> rfl

@[simp] theorem loaders_put (c : Cache) (victim key : String) (m : Metadata) :
    (c.put victim key m).loaders = c.loaders := by
  unfold put
  split <;> rfl

@[simp] theorem lookup_put_self (c : Cache) (victim key : String) (m : Metadata) :
    (c.put victim key m).data.lookup key = some m := by
  unfold put
  split <;> simp

/-- What `put` leaves under another key was there before. -/
theorem lookup_put_of_ne {c : Cache} {victim key other : String} {m m' : Metadata}
    (hne : other ≠ key) (h : (c.put victim key m).data.lookup other = some m') :
    c.data.lookup other = some m' := by
  unfold put at h
  split at h
  · rw [AList.lookup_insert_ne hne] at h
    by_cases hv : other = victim
    · subst hv
      simp at h
    · rwa [AList.lookup_erase_ne hv] at h
  · rwa [AList.lookup_insert_ne hne] at h

theorem lookup_invalidate_of_ne {c : Cache} {key other : String} (hne : other ≠ key) :
    (c.invalidate key).data.lookup other = c.data.lookup other :=
  AList.lookup_erase_ne hne

@[simp] theorem lookup_invalidate_self (c : Cache) (key : String) :
    (c.invalidate key).data.lookup key = none := by
  simp [invalidate]

/-- A full map has an entry to evict. -/
theorem exists_victim (c : Cache) : ∃ victim, c.full = true → victim ∈ c.data := by
  cases hkeys : c.data.keys with
  | nil =>
      refine ⟨"", fun hfull => ?_⟩
      have hcap : c.cap ≤ 0 := by simpa [full, hkeys] using hfull
      exact absurd c.cap_pos (by omega)
  | cons victim rest =>
      exact ⟨victim, fun _ => AList.mem_keys.2 (by rw [hkeys]; exact List.mem_cons_self)⟩

end Cache

/-! ## Calls of `Get` -/

/-- Where a call of `Get` stands between two of its steps. -/
inductive Pc
  /-- Before the L0 read. -/
  | reading
  /-- About to call a loader, with `left` more loaders behind it. -/
  | loading (left : ℕ)
  /-- A loader answered, or all of them missed; the answer is not stamped yet. -/
  | answered (m : Metadata)
  /-- `cachedAt` is set; `put` is next. -/
  | stamped (m : Metadata)
  | returned (r : Except String Metadata)

structure GetCall where
  key : String
  pc : Pc

/-- What a loader does with one call. -/
inductive Answer
  | content
  | miss
  | failed (err : String)

/-- The calls of one cache, the backing store and the clock. -/
structure System where
  now : ℤ
  store : String → Option Metadata
  cache : Cache
  gets : List GetCall

inductive Label
  | tick (d : ℕ)
  /-- The backing store changes what it holds of one key. -/
  | record (key : String) (content : Option Metadata)
  | call (key : String)
  | read (i : ℕ)
  | load (i : ℕ) (answer : Answer)
  | stamp (i : ℕ)
  | put (i : ℕ) (victim : String)
  | invalidate (key : String)

/-- Where a loader's answer takes the call; a loader answers with the store's content. -/
def afterLoad (content : Option Metadata) (left : ℕ) : Answer → Option Pc
  | .content => content.map .answered
  | .miss =>
      match left with
      | 0 => some (.answered {})
      | n + 1 => some (.loading n)
  | .failed err => some (.returned (.error err))

namespace System

/-- Move the call at index `i` on to `pc`. -/
def advance (s : System) (i : ℕ) (g : GetCall) (pc : Pc) : System :=
  { s with gets := s.gets.set i { g with pc := pc } }

@[simp] theorem now_advance (s : System) (i : ℕ) (g : GetCall) (pc : Pc) :
    (s.advance i g pc).now = s.now := rfl

/-- The piece of `Get` that the call at index `i` does next, as `next` gives it. -/
def onCall (s : System) (i : ℕ) (next : GetCall → Option System) : Option System :=
  s.gets[i]?.bind next

def setStore (s : System) (key : String) (content : Option Metadata) : System :=
  { s with store := fun other => if other = key then content else s.store other }

end System

def step (s : System) : Label → Option System
  | .tick d => some { s with now := s.now + d }
  | .record key content => some (s.setStore key content)
  | .call key => some { s with gets := s.gets ++ [{ key := key, pc := .reading }] }
  | .read i => s.onCall i fun g =>
      match g.pc with
      | .reading =>
          match s.cache.read s.now g.key with
          | some m => some (s.advance i g (.returned (.ok m)))
          | none => some (s.advance i g (.loading (s.cache.loaders - 1)))
      | _ => none
  | .load i answer => s.onCall i fun g =>
      match g.pc with
      | .loading left => (afterLoad (s.store g.key) left answer).map (s.advance i g)
      | _ => none
  | .stamp i => s.onCall i fun g =>
      match g.pc with
      | .answered m => some (s.advance i g (.stamped { m with cachedAt := s.now }))
      | _ => none
  | .put i victim => s.onCall i fun g =>
      match g.pc with
      | .stamped m =>
          if s.cache.full = true → victim ∈ s.cache.data then
            some { s.advance i g (.returned (.ok m)) with cache := s.cache.put victim g.key m }
          else
            none
      | _ => none
  | .invalidate key => some { s with cache := s.cache.invalidate key }

/-! ## Revocation -/

/-- The store does not hold `key` as a valid key. -/
def Revoked (store : String → Option Metadata) (key : String) : Prop :=
  ∀ m, store key = some m → m.valid = false

/-- The label does not make the store hold `key` as valid again. -/
def KeepsRevoked (key : String) : Label → Prop
  | .record other content => other = key → ∀ m, content = some m → m.valid = false
  | _ => True

/-- From `s` on, no call for `key` that starts later returns valid metadata. -/
def RevocationHolds (key : String) (s : System) : Prop :=
  ∀ (labels : List Label) (t : System), (∀ l ∈ labels, KeepsRevoked key l) →
    exec step s labels = some t →
    ∀ i g m, s.gets.length ≤ i → t.gets[i]? = some g → g.key = key →
      g.pc = .returned (.ok m) → m.valid = false

/-- An entry stamped at `cachedAt` no longer answers an L0 read. -/
def Expired (s : System) (cachedAt : ℤ) : Prop :=
  s.cache.ttl ≤ s.now - cachedAt

/-- What a call in flight for `key` carries towards `put` is not valid, or too old to be served. -/
def InFlightSpent (key : String) (s : System) : Prop :=
  ∀ g ∈ s.gets, g.key = key →
    match g.pc with
    | .answered m => m.valid = false ∨ Expired s s.now
    | .stamped m => m.valid = false ∨ Expired s m.cachedAt
    | _ => True

/-! ## What a step can do -/

/-- The moves of a call that touch nothing but the call. -/
inductive Moves (s : System) (key : String) : Pc → Pc → Prop
  | hit {m : Metadata} : s.cache.read s.now key = some m →
      Moves s key .reading (.returned (.ok m))
  | missed : Moves s key .reading (.loading (s.cache.loaders - 1))
  | loaded {left : ℕ} {answer : Answer} {pc : Pc} : afterLoad (s.store key) left answer = some pc →
      Moves s key (.loading left) pc
  | stamped {m : Metadata} : Moves s key (.answered m) (.stamped { m with cachedAt := s.now })

/-- What the step of a label leaves. -/
inductive Effect (s : System) : Label → System → Prop
  | tick (d : ℕ) : Effect s (.tick d) { s with now := s.now + d }
  | record (key : String) (content : Option Metadata) :
      Effect s (.record key content) (s.setStore key content)
  | call (key : String) :
      Effect s (.call key) { s with gets := s.gets ++ [{ key := key, pc := .reading }] }
  | move {l : Label} {i : ℕ} {g : GetCall} {pc : Pc} : (∀ key content, l ≠ .record key content) →
      s.gets[i]? = some g → Moves s g.key g.pc pc → Effect s l (s.advance i g pc)
  | put {i : ℕ} {victim : String} {g : GetCall} {m : Metadata} :
      s.gets[i]? = some g → g.pc = .stamped m →
      Effect s (.put i victim)
        { s.advance i g (.returned (.ok m)) with cache := s.cache.put victim g.key m }
  | invalidate (key : String) :
      Effect s (.invalidate key) { s with cache := s.cache.invalidate key }

theorem effect_of_step {s t : System} {l : Label} (h : step s l = some t) : Effect s l t := by
  cases l with
  | tick d =>
      cases h
      exact .tick d
  | record key content =>
      cases h
      exact .record key content
  | call key =>
      cases h
      exact .call key
  | read i =>
      rcases Option.bind_eq_some_iff.1 h with ⟨g, hg, h⟩
      cases hpc : g.pc with
      | reading =>
          cases hread : s.cache.read s.now g.key with
          | some m =>
              simp only [hpc, hread] at h
              cases h
              exact .move (by simp) hg (hpc ▸ .hit hread)
          | none =>
              simp only [hpc, hread] at h
              cases h
              exact .move (by simp) hg (hpc ▸ .missed)
      | _ => simp [hpc] at h
  | load i answer =>
      rcases Option.bind_eq_some_iff.1 h with ⟨g, hg, h⟩
      cases hpc : g.pc with
      | loading left =>
          simp only [hpc] at h
          rcases Option.map_eq_some_iff.1 h with ⟨pc, hload, rfl⟩
          exact .move (by simp) hg (hpc ▸ .loaded hload)
      | _ => simp [hpc] at h
  | stamp i =>
      rcases Option.bind_eq_some_iff.1 h with ⟨g, hg, h⟩
      cases hpc : g.pc with
      | answered m =>
          simp only [hpc] at h
          cases h
          exact .move (by simp) hg (hpc ▸ .stamped)
      | _ => simp [hpc] at h
  | put i victim =>
      rcases Option.bind_eq_some_iff.1 h with ⟨g, hg, h⟩
      cases hpc : g.pc with
      | stamped m =>
          simp only [hpc] at h
          split at h
          · cases h
            exact .put hg hpc
          · cases h
      | _ => simp [hpc] at h
  | invalidate key =>
      cases h
      exact .invalidate key

/-! ## The invariant after an invalidation -/

/-- `m` cannot come out of the L0 layer as valid. -/
def Spent (s : System) (m : Metadata) : Prop :=
  m.valid = false ∨ Expired s m.cachedAt

/-- A call at `pc` lets no valid metadata out: it carries none, or it started `early` and what it
carries is spent. -/
def PcQuiet (s : System) (early : Prop) : Pc → Prop
  | .answered m => m.valid = false ∨ early ∧ Expired s s.now
  | .stamped m => m.valid = false ∨ early ∧ Expired s m.cachedAt
  | .returned (.ok m) => m.valid = false ∨ early
  | _ => True

/-- The invariant of the runs after an invalidation of `key` at which `n` calls had started. -/
structure Quiet (key : String) (n : ℕ) (s : System) : Prop where
  revoked : Revoked s.store key
  cached : ∀ m, s.cache.data.lookup key = some m → Spent s m
  calls : AllAt (fun i g => g.key = key → PcQuiet s (i < n) g.pc) s.gets

/-- The clock only takes entries further from being served. -/
theorem PcQuiet.mono {s t : System} {early : Prop} {pc : Pc} (hnow : s.now ≤ t.now)
    (httl : t.cache.ttl = s.cache.ttl) (h : PcQuiet s early pc) : PcQuiet t early pc := by
  cases pc with
  | answered m =>
      simpa [PcQuiet, Expired, httl] using h
  | stamped m =>
      rcases h with h | ⟨he, h⟩
      · exact .inl h
      · refine .inr ⟨he, ?_⟩
        unfold Expired at h ⊢
        omega
  | returned r =>
      cases r with
      | ok m => exact h
      | error e => trivial
  | _ => trivial

/-- A valid L0 hit is an entry that has not expired. -/
theorem not_spent_of_read {s : System} {key : String} {m : Metadata}
    (h : s.cache.read s.now key = some m) (hv : m.valid = true) :
    s.cache.data.lookup key = some m ∧ ¬ Spent s m := by
  unfold Cache.read at h
  split at h
  · rename_i m' hlook
    split at h
    · cases h
      refine ⟨hlook, ?_⟩
      rintro (hinv | hexp)
      · simp [hv] at hinv
      · unfold Expired at hexp
        omega
    · cases h
  · cases h

/-- In a quiet state every move of a call for the key is quiet. -/
theorem Quiet.pcQuiet_of_moves {key : String} {n : ℕ} {s : System} (h : Quiet key n s)
    {early : Prop} {pc pc' : Pc} (hm : Moves s key pc pc') (hpc : PcQuiet s early pc) :
    PcQuiet s early pc' := by
  cases hm with
  | @hit m hread =>
      -- A valid hit would be an entry that is neither invalid nor expired.
      left
      by_contra hv
      rcases not_spent_of_read hread (by simpa using hv) with ⟨hlook, hns⟩
      exact hns (h.cached m hlook)
  | missed => trivial
  | @loaded left answer pc' hload =>
      -- The store says that the key is revoked, and a miss is answered as not valid.
      cases answer with
      | content =>
          rcases Option.map_eq_some_iff.1 hload with ⟨m, hstore, rfl⟩
          exact .inl (h.revoked m hstore)
      | miss =>
          cases left with
          | zero =>
              cases hload
              exact .inl rfl
          | succ left =>
              cases hload
              trivial
      | failed err =>
          cases hload
          trivial
  | stamped =>
      exact hpc

theorem revoked_of_step {key : String} {s t : System} {l : Label} (h : Revoked s.store key)
    (hkeep : KeepsRevoked key l) (hstep : step s l = some t) : Revoked t.store key := by
  cases effect_of_step hstep with
  | record other content =>
      intro m hm
      by_cases hother : key = other
      · subst hother
        exact hkeep rfl m (by simpa [System.setStore] using hm)
      · exact h m (by simpa [System.setStore, hother] using hm)
  | _ => exact h

/-- Every step that does not record the key as valid keeps the invariant. -/
theorem Quiet.of_step {key : String} {n : ℕ} {s t : System} {l : Label} (h : Quiet key n s)
    (hkeep : KeepsRevoked key l) (hstep : step s l = some t) : Quiet key n t := by
  have hrev : Revoked t.store key := revoked_of_step h.revoked hkeep hstep
  cases effect_of_step hstep with
  | tick d =>
      have hnow : s.now ≤ s.now + (d : ℤ) := by omega
      refine
        { revoked := hrev
          cached := fun m hm => ?_
          calls := fun i g hg hkey => (h.calls i g hg hkey).mono hnow rfl }
      -- What has expired stays so as the clock goes on.
      rcases h.cached m hm with hv | hexp
      · exact .inl hv
      · refine .inr ?_
        unfold Expired at hexp ⊢
        simp only
        omega
  | record other content =>
      exact { revoked := hrev, cached := h.cached, calls := h.calls }
  | call other =>
      exact
        { revoked := hrev
          cached := h.cached
          calls := h.calls.concat fun _ => trivial }
  | @move _ i g pc _ hg hm =>
      exact
        { revoked := hrev
          cached := h.cached
          calls := h.calls.set fun hkey => h.pcQuiet_of_moves (hkey ▸ hm) (h.calls i g hg hkey) }
  | @put i victim g m hg hpc =>
      -- What the call stores is not valid, or was stamped too long ago to be served.
      have hquiet : g.key = key → m.valid = false ∨ i < n ∧ Expired s m.cachedAt := by
        intro hkey
        simpa [PcQuiet, hpc] using h.calls i g hg hkey
      refine
        { revoked := hrev
          cached := fun m' hm' => ?_
          calls := ?_ }
      · by_cases hkey : key = g.key
        · rw [hkey, Cache.lookup_put_self] at hm'
          cases hm'
          rcases hquiet hkey.symm with hv | ⟨-, hexp⟩
          · exact .inl hv
          · exact .inr (by simpa [Expired] using hexp)
        -- Of the other entries a put at most evicts one.
        · have hspent := h.cached m' (Cache.lookup_put_of_ne hkey hm')
          simpa [Spent, Expired] using hspent
      · have hset : AllAt (fun i g => g.key = key → PcQuiet s (i < n) g.pc)
            (s.gets.set i { g with pc := .returned (.ok m) }) :=
          h.calls.set fun hkey => (hquiet hkey).imp_right And.left
        exact hset.mono fun j g' hj hkey => PcQuiet.mono (s := s) le_rfl (by simp) (hj hkey)
  | invalidate other =>
      refine { revoked := hrev, cached := fun m hm => ?_, calls := h.calls }
      -- Taking entries away makes nothing servable.
      by_cases hother : key = other
      · subst hother
        simp at hm
      · rw [Cache.lookup_invalidate_of_ne hother] at hm
        exact h.cached m hm

/-- An invalidation with the key revoked and nothing but spent answers in flight establishes the
invariant. -/
theorem quiet_of_inFlightSpent {key : String} {s t : System} (hrev : Revoked s.store key)
    (hspent : InFlightSpent key t) (h : step s (.invalidate key) = some t) :
    Quiet key t.gets.length t := by
  cases h
  refine { revoked := hrev, cached := fun m hm => ?_, calls := fun i g hg hkey => ?_ }
  · simp at hm
  · have hlt : i < s.gets.length := (List.getElem?_eq_some_iff.1 hg).1
    have hg' := hspent g (List.mem_of_getElem? hg) hkey
    cases hpc : g.pc with
    | answered m =>
        rw [hpc] at hg'
        exact hg'.imp_right fun hexp => ⟨hlt, hexp⟩
    | stamped m =>
        rw [hpc] at hg'
        exact hg'.imp_right fun hexp => ⟨hlt, hexp⟩
    | returned r =>
        cases r with
        | ok m => exact .inr hlt
        | error e => trivial
    | _ => trivial

/-- In a quiet state the revocation holds: the run lemma of `Quiet.of_step`. -/
theorem Quiet.revocationHolds {key : String} {s : System} (h : Quiet key s.gets.length s) :
    RevocationHolds key s := by
  intro labels t hkeep hexec i g m hi hg hkey hpc
  have hguard : Guarded step (fun _ l => KeepsRevoked key l) s labels :=
    guarded_of_forall hkeep
  have ht : Quiet key s.gets.length t :=
    exec_invariant_of_guarded (fun _ _ _ hq hl hs => hq.of_step hl hs) h hguard hexec
  have hq := ht.calls i g hg hkey
  rw [hpc] at hq
  exact hq.resolve_right (by omega)

/-! ## The run that serves a late answer -/

/-- A stamped answer that has not expired is put, and the next call for its key returns it. -/
theorem served_of_stamped {key : String} {s : System} {i : ℕ} {g : GetCall} {m : Metadata}
    (hg : s.gets[i]? = some g) (hkey : g.key = key) (hpc : g.pc = .stamped m)
    (hfresh : ¬ Expired s m.cachedAt) :
    ∃ victim t, exec step s [.put i victim, .call key, .read s.gets.length] = some t ∧
      t.gets[s.gets.length]? = some { key := key, pc := .returned (.ok m) } := by
  rcases s.cache.exists_victim with ⟨victim, hvictim⟩
  let s₁ : System :=
    { s.advance i g (.returned (.ok m)) with cache := s.cache.put victim g.key m }
  let s₂ : System :=
    { s₁ with gets := s₁.gets ++ [{ key := key, pc := .reading }] }
  let s₃ : System :=
    s₂.advance s.gets.length { key := key, pc := .reading } (.returned (.ok m))
  have hput : step s (.put i victim) = some s₁ := by
    simpa [step, System.onCall, hg, hpc, s₁] using hvictim
  have hlen : s₁.gets.length = s.gets.length := by
    simp [s₁, System.advance]
  have hnew : s₂.gets[s.gets.length]? = some { key := key, pc := .reading } := by
    rw [← hlen]
    exact List.getElem?_concat_length
  have hhit : s₂.cache.read s₂.now key = some m := by
    have hlt : s.now - m.cachedAt < s.cache.ttl := by
      simpa [Expired] using hfresh
    simp [s₂, s₁, Cache.read, hkey, hlt]
  have hread : step s₂ (.read s.gets.length) = some s₃ := by
    simp [step, System.onCall, hnew, hhit, s₃]
  have hlt : s.gets.length < s₂.gets.length := by
    simp [s₂, hlen]
  refine ⟨victim, s₃, ?_, ?_⟩
  · exact exec_cons.2 ⟨s₁, hput, exec_cons.2 ⟨s₂, rfl, exec_cons.2 ⟨s₃, hread, rfl⟩⟩⟩
  · exact List.getElem?_set_self hlt

/-- If the revocation holds, no call in flight carries an answer that could still be served. -/
theorem InFlightSpent.of_revocationHolds {key : String} {s : System}
    (h : RevocationHolds key s) : InFlightSpent key s := by
  intro g hmem hkey
  rcases List.mem_iff_getElem?.1 hmem with ⟨i, hg⟩
  cases hpc : g.pc with
  | answered m =>
      -- The stamp comes first; it takes the present instant.
      by_cases hexp : Expired s s.now
      · exact .inr hexp
      · let s₁ : System := s.advance i g (.stamped { m with cachedAt := s.now })
        have hstamp : step s (.stamp i) = some s₁ := by
          simp [step, System.onCall, hg, hpc, s₁]
        have hlen : s₁.gets.length = s.gets.length := by
          simp [s₁, System.advance]
        have hg₁ : s₁.gets[i]? = some { g with pc := .stamped { m with cachedAt := s.now } } :=
          List.getElem?_set_self (List.getElem?_eq_some_iff.1 hg).1
        rcases served_of_stamped hg₁ hkey rfl hexp with ⟨victim, t, hexec, hlast⟩
        left
        have := h (.stamp i :: [.put i victim, .call key, .read s₁.gets.length]) t
          (by simp [KeepsRevoked]) (exec_cons.2 ⟨s₁, hstamp, hexec⟩) s₁.gets.length _ _ hlen.ge
          hlast
          rfl rfl
        exact this
  | stamped m =>
      by_cases hexp : Expired s m.cachedAt
      · exact .inr hexp
      · rcases served_of_stamped hg hkey hpc hexp with ⟨victim, t, hexec, hlast⟩
        exact .inl (h _ t (by simp [KeepsRevoked]) hexec s.gets.length _ _ le_rfl hlast rfl rfl)
  | _ => trivial

/-! ## Revocation and invalidation -/

/-- The store records `key` as revoked, `Invalidate` follows: the revocation holds from there on
exactly when, at that moment, the calls in flight carry only spent answers. -/
theorem revocationHolds_iff_inFlightSpent {s t : System} {before between : List Label}
    {key : String} {content : Option Metadata}
    (hcontent : ∀ m, content = some m → m.valid = false)
    (hkeep : ∀ l ∈ between, KeepsRevoked key l)
    (h : exec step s (before ++ .record key content :: between ++ [.invalidate key]) = some t) :
    RevocationHolds key t ↔ InFlightSpent key t := by
  constructor
  · exact InFlightSpent.of_revocationHolds
  · intro hspent
    rcases exec_append.1 h with ⟨s₃, h, hinv⟩
    rcases exec_append.1 h with ⟨s₁, -, h⟩
    rcases exec_cons.1 h with ⟨s₂, hrecord, hbetween⟩
    have hrev : Revoked s₂.store key := by
      cases hrecord
      intro m hm
      exact hcontent m (by simpa [System.setStore] using hm)
    have hguard : Guarded step (fun _ l => KeepsRevoked key l) s₂ between :=
      guarded_of_forall hkeep
    have hrev' : Revoked s₃.store key :=
      exec_invariant_of_guarded (fun _ _ _ hr hl hs => revoked_of_step hr hl hs) hrev hguard
        hbetween
    rcases exec_cons.1 hinv with ⟨t', hinv, ht⟩
    cases ht
    exact (quiet_of_inFlightSpent hrev' hspent hinv).revocationHolds

/-- A new cache of ten entries and one minute, over a store with one live key. -/
def oneKey : System :=
  { now := 0
    store := fun key => if key = "k" then some { valid := true, keyID := "key_1" } else none
    cache :=
      { ttl := 60000000000, loaders := 1, data := ∅, cap := 10
        loaders_pos := by decide, cap_pos := by decide }
    gets := [] }

/-- `oneKey` after the first `Get` has loaded and stored its answer, and the key is revoked. -/
theorem revocationHolds_iff_inFlightSpent_oneKey :
    ∃ t, exec step oneKey
        ([.call "k", .read 0, .load 0 .content, .stamp 0, .put 0 "k"] ++
          .record "k" (some {}) :: [] ++ [.invalidate "k"]) = some t ∧
      (RevocationHolds "k" t ↔ InFlightSpent "k" t) := by
  refine ⟨_, rfl, @revocationHolds_iff_inFlightSpent oneKey _
    [.call "k", .read 0, .load 0 .content, .stamp 0, .put 0 "k"] [] "k" (some {}) ?_ ?_ rfl⟩
  · rintro m ⟨⟩
    rfl
  · simp

/-- The loader answers before the revocation, `put` runs after the invalidation: the next call
returns the revoked key as valid. -/
theorem late_put_undoes_invalidate :
    ¬ ∀ (s t : System) (before between : List Label) (key : String) (content : Option Metadata),
      (∀ m, content = some m → m.valid = false) → (∀ l ∈ between, KeepsRevoked key l) →
      exec step s (before ++ .record key content :: between ++ [.invalidate key]) = some t →
      RevocationHolds key t := by
  intro h
  have hrev := h oneKey _ [.call "k", .read 0, .load 0 .content] [] "k" (some {})
    (by rintro m ⟨⟩; rfl) (by simp) rfl
  have hvalid := hrev [.stamp 0, .put 0 "k", .call "k", .read 1] _ (by simp [KeepsRevoked]) rfl
    1 _ _ le_rfl rfl rfl rfl
  exact absurd hvalid (by decide)

end AuthCache
end Gateway
end OpenRouter
