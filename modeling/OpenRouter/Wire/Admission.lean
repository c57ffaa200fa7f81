import OpenRouter.Backend.KeyLife
import OpenRouter.Gateway.Provenance
import OpenRouter.Wire.KeyMetadata

/-!
# Admission — the life of a key in the backend, behind the gateway's cache

The gateway's auth cache over the backend's database, both running: keys are created, revoked and
suspended between any two steps of any call of `Get`.  The last loader is `ValidateKey` on the
database as it is at that instant, and the Redis layer in front of it has no entries.
`vouched_of_run` traces what a call lets in back to a key that was live.
-/

namespace OpenRouter
namespace Wire
namespace Admission

open Base
open Backend (APIKey findByLookupHash)
open Backend.AuthServicer (getForUpdate toDomain)
open Backend.KeyLife (World committed)
open Backend.Reservations (SpendError)
open Backend.Routes (Platform)
open Gateway.AuthCache (Cache Event GetCall Log Logged Loaded Metadata System Throughout)

/-! ## The two processes -/

structure Deployment where
  world : World
  gateway : System

inductive Label
  /-- Some microseconds on both clocks. -/
  | tick (d : ℕ)
  | backend (l : Backend.KeyLife.Label)
  | call (keyHash : String)
  | read (i : ℕ)
  /-- A loader in front of the backend: a miss, or an error. -/
  | front (i : ℕ) (err : Option String)
  /-- The backend's loader; `some` is an error of the connection. -/
  | ask (i : ℕ) (err : Option String)
  | stamp (i : ℕ)
  | put (i : ℕ) (victim : String)

variable (rpcError : SpendError → String) (p : Platform) (hashApiKey : String → String → String)

/-- What the backend's loader answers. -/
def asked (w : World) (keyHash : String) : Option String → Loaded
  | some err => .error (.failed err)
  | none => fetch rpcError w.db w.now keyHash

/-- What an answer of a loader is to the cache: the content that the store is to have, and how the
loader answers. -/
def answerOf : Loaded → Option Metadata × Gateway.AuthCache.Answer
  | .ok m => (some m, .content)
  | .error .miss => (none, .miss)
  | .error (.failed err) => (none, .failed err)

/-- The cache with a store that holds one content. -/
def holding (g : System) (content : Option Metadata) : System :=
  { g with store := fun _ => content }

/-- What a step does with the cache: the content of the store behind it, and the cache's own
label. -/
def cacheLabel (s : Deployment) : Label → Option (Option Metadata × Gateway.AuthCache.Label)
  | .tick _ | .backend _ => none
  | .call keyHash => some (none, .call keyHash)
  | .read i => some (none, .read i)
  | .front i err =>
      match s.gateway.gets[i]?.map GetCall.pc with
      | some (.loading (_ + 1)) => some (none, .load i (err.elim .miss .failed))
      | _ => none
  | .ask i err =>
      match s.gateway.gets[i]? with
      | some { key := keyHash, pc := .loading 0 } =>
          let answer := answerOf (asked rpcError s.world keyHash err)
          some (answer.1, .load i answer.2)
      | _ => none
  | .stamp i => some (none, .stamp i)
  | .put i victim => some (none, .put i victim)

def step (s : Deployment) : Label → Option Deployment
  | .tick d =>
      some
        { world := s.world.tick d
          gateway := { s.gateway with now := s.gateway.now + (1000 * d : ℕ) } }
  | .backend (.tick _) => none
  | .backend l => some { s with world := s.world.step p hashApiKey l }
  | l =>
      (cacheLabel rpcError s l).bind fun c =>
        (Gateway.AuthCache.step (holding s.gateway c.1) c.2).map fun g => { s with gateway := g }

/-- What a step shows of the cache. -/
def emit (s : Deployment) (l : Label) : Option (ℤ × Event) :=
  (cacheLabel rpcError s l).bind fun c =>
    Gateway.AuthCache.shown (holding s.gateway c.1) c.2

/-- What a step lets the backend do. -/
def backendLabel : Label → Option Backend.KeyLife.Label
  | .tick d => some (.tick d)
  | .backend l => some l
  | _ => none

/-- What the backend does in a run. -/
def backendLabels (ls : List Label) : List Backend.KeyLife.Label :=
  ls.filterMap backendLabel

/-- A new cache in front of a backend without keys. -/
def start (w : World) (c : Cache) : Deployment :=
  { world := w, gateway := .start c (fun _ => none) (1000 * w.now) }

variable {rpcError p hashApiKey} {s t : Deployment} {l : Label}

/-! ## A step -/

theorem step_cases (h : step rpcError p hashApiKey s l = some t) :
    (∃ d, l = .tick d ∧
      t = { world := s.world.tick d
            gateway := { s.gateway with now := s.gateway.now + (1000 * d : ℕ) } }) ∨
    (∃ bl, l = .backend bl ∧ t = { s with world := s.world.step p hashApiKey bl }) ∨
    (∃ c g, backendLabel l = none ∧ cacheLabel rpcError s l = some c ∧
      Gateway.AuthCache.step (holding s.gateway c.1) c.2 = some g ∧
      t = { s with gateway := g } ∧
      emit rpcError s l = Gateway.AuthCache.shown (holding s.gateway c.1) c.2) := by
  have hcache : ∀ {l'}, l' = l → backendLabel l' = none → (cacheLabel rpcError s l').bind (fun c =>
      (Gateway.AuthCache.step (holding s.gateway c.1) c.2).map fun g =>
        ({ s with gateway := g } : Deployment)) = some t →
      ∃ c g, backendLabel l = none ∧ cacheLabel rpcError s l = some c ∧
        Gateway.AuthCache.step (holding s.gateway c.1) c.2 = some g ∧
        t = { s with gateway := g } ∧
        emit rpcError s l = Gateway.AuthCache.shown (holding s.gateway c.1) c.2 := by
    rintro l' rfl hnone hbind
    rcases Option.bind_eq_some_iff.1 hbind with ⟨c, hc, hstep⟩
    rcases Option.map_eq_some_iff.1 hstep with ⟨g, hg, rfl⟩
    exact ⟨c, g, hnone, hc, hg, rfl, by rw [emit, hc, Option.bind_some]⟩
  cases l with
  | tick d =>
      cases h
      exact .inl ⟨d, rfl, rfl⟩
  | backend bl =>
      cases bl with
      | tick d => cases h
      | createKey | revokeKey | suspendUser | abort =>
          cases h
          exact .inr (.inl ⟨_, rfl, rfl⟩)
  | call | read | front | ask | stamp | put => exact .inr (.inr (hcache rfl rfl h))

/-- The metadata that the log of the cache has from a loader is the store's. -/
theorem loaded_of_shown {g : System} {cl : Gateway.AuthCache.Label} {t₀ : ℤ} {j : ℕ}
    {keyHash : String} {m : Metadata}
    (h : Gateway.AuthCache.shown g cl = some (t₀, .loaded j keyHash m)) :
    cl = .load j .content ∧ t₀ = g.now ∧ g.store keyHash = some m ∧
      ∃ call, g.gets[j]? = some call ∧ call.key = keyHash := by
  cases cl with
  | load i answer =>
      rcases Option.bind_eq_some_iff.1 h with ⟨call, hcall, hshown⟩
      rcases call with ⟨key, pc⟩
      cases pc with
      | loading left =>
          cases answer with
          | content =>
              rcases Option.bind_eq_some_iff.1 hshown with ⟨m', hstore, hevent⟩
              cases hevent
              exact ⟨rfl, rfl, hstore, _, hcall, rfl⟩
          | miss => cases hshown
          | failed err => cases hshown
      | reading | answered | stamped | returned => cases answer <;> cases hshown
  | read i =>
      rcases Option.bind_eq_some_iff.1 h with ⟨call, -, hshown⟩
      rcases Option.bind_eq_some_iff.1 hshown with ⟨m', -, hevent⟩
      cases hevent
  | stamp i =>
      rcases Option.bind_eq_some_iff.1 h with ⟨⟨key, pc⟩, -, hshown⟩
      cases pc <;> cases hshown
  | put i victim =>
      rcases Option.bind_eq_some_iff.1 h with ⟨⟨key, pc⟩, -, hshown⟩
      cases pc <;> cases hshown
  | tick | record | call | invalidate => cases h

/-- Metadata come from the last loader, and are what the backend has of the key. -/
theorem fetch_of_emit {t₀ : ℤ} {j : ℕ} {keyHash : String} {m : Metadata}
    (h : emit rpcError s l = some (t₀, .loaded j keyHash m)) :
    l = .ask j none ∧ s.gateway.gets[j]? = some { key := keyHash, pc := .loading 0 } ∧
      t₀ = s.gateway.now ∧ fetch rpcError s.world.db s.world.now keyHash = .ok m := by
  rcases Option.bind_eq_some_iff.1 h with ⟨⟨content, cl⟩, hlabel, hshown⟩
  rcases loaded_of_shown hshown with ⟨rfl, hnow, hstore, call, hcall, hkey⟩
  have hcontent : content = some m := hstore
  cases l with
  | ask i err =>
      cases hget : s.gateway.gets[i]? with
      | none => simp [cacheLabel, hget] at hlabel
      | some call' =>
          rcases call' with ⟨key, _ | (_ | left) | _ | _ | _⟩ <;>
            simp only [cacheLabel, hget, Option.some.injEq, Prod.mk.injEq, reduceCtorEq] at hlabel
          rcases hlabel with ⟨hanswer, hload⟩
          -- The call that is shown is the one that asked.
          have hindex : i = j := by
            injection hload
          subst hindex
          have hsame : ({ key := key, pc := .loading 0 } : GetCall) = call :=
            Option.some.inj (hget.symm.trans hcall)
          subst hsame
          have hkey' : key = keyHash := hkey
          subst hkey'
          rw [hcontent] at hanswer
          cases hasked : asked rpcError s.world key err with
          | error e => cases e <;> simp [answerOf, hasked] at hanswer
          | ok m' =>
              rw [hasked] at hanswer
              cases err with
              | some err => cases hasked
              | none =>
                  rw [asked] at hasked
                  rw [hasked]
                  exact ⟨rfl, hget, hnow, congrArg Except.ok (Option.some.inj hanswer)⟩
  | front i err =>
      cases err <;> simp only [cacheLabel, Option.elim] at hlabel <;> split at hlabel <;>
        cases hlabel
  | tick | backend => cases hlabel
  | call | read | stamp | put => cases hlabel

/-! ## Keys that are live -/

variable (p hashApiKey) in
/-- The calls of a run have created the key with a secret of this hash and not revoked it or
suspended its user since, its row says the same, and it has not expired. -/
structure Live (w₀ : World) (past : List Label) (w : World) (keyHash : String) (k : APIKey) :
    Prop where
  created : ∃ plaintext later earlier,
    committed p hashApiKey w₀ (backendLabels past) = later ++ .created k plaintext :: earlier ∧
      p.sha256Lookup plaintext = keyHash ∧ ∀ e ∈ later, ¬e.Covers k
  row : findByLookupHash w.db keyHash = some k
  unrevoked : k.revokedAt = none
  unexpired : ∀ t, k.expiresAt = some t → w.now ≤ t

/-- The backend answers with valid metadata for a live key only, and with that key's and its
credit. -/
theorem live_of_fetch {w₀ w : World} {past : List Label}
    (hinv : Backend.KeyLife.Inv p hashApiKey w (committed p hashApiKey w₀ (backendLabels past)))
    {keyHash : String} {m : Metadata} (h : fetch rpcError w.db w.now keyHash = .ok m)
    (hvalid : m.valid = true) :
    ∃ k usable, Live p hashApiKey w₀ past w keyHash k ∧
      (toDomain k.orgId (getForUpdate w.db k.orgId)).usable = .ok usable ∧
      m = arriving k (getForUpdate w.db k.orgId) usable := by
  cases hfind : findByLookupHash w.db keyHash with
  | none =>
      rw [fetch_of_none hfind] at h
      cases h
  | some k =>
      cases husable : k.assertUsable w.now with
      | error exc =>
          have hfetch : ∃ m', fetch rpcError w.db w.now keyHash = .ok m' ∧ m'.valid = false :=
            fetch_of_unusable hfind husable
          rcases hfetch with ⟨m', hm', hfalse⟩
          rw [hm'] at h
          cases h
          rw [hfalse] at hvalid
          cases hvalid
      | ok u =>
          cases hbalance : (toDomain k.orgId (getForUpdate w.db k.orgId)).usable with
          | error exc =>
              simp [fetch, Backend.AuthServicer.validateKey, hfind, husable, hbalance,
                Gateway.AuthCache.validate] at h
          | ok usable =>
              rw [fetch_of_usable hfind husable hbalance] at h
              cases h
              rcases APIKey.assertUsable_eq_ok.1 husable with ⟨hrevoked, hexpires⟩
              rcases Backend.findByLookupHash_eq_some.1 hfind with ⟨hmem, hlookup⟩
              rcases hinv.created hmem hrevoked with
                ⟨plaintext, later, earlier, hcommitted, huncovered⟩
              have hhash := (hinv.hashes k plaintext (by rw [hcommitted]; simp)).1
              exact ⟨k, usable,
                { created := ⟨plaintext, later, earlier, hcommitted, hhash.symm.trans hlookup,
                    huncovered⟩
                  row := hfind
                  unrevoked := hrevoked
                  unexpired := hexpires }, hbalance, rfl⟩

/-! ## Runs -/

section Runs

variable (rpcError p hashApiKey) (w₀ : World) (c : Cache)

/-- A step with what it shows. -/
abbrev loggedStep : Deployment × Log → Label → Option (Deployment × Log) :=
  logged (step rpcError p hashApiKey) (emit rpcError)

/-- Call `j` asked the backend at that instant of the run, and the backend had this metadata of the
key. -/
def Had (past : List Label) (t₀ : ℤ) (j : ℕ) (keyHash : String) (m : Metadata) : Prop :=
  ∃ earlier s, earlier ++ [.ask j none] <+: past ∧
    exec (step rpcError p hashApiKey) (start w₀ c) earlier = some s ∧
    s.world = w₀.run p hashApiKey (backendLabels earlier) ∧
    s.gateway.gets[j]? = some { key := keyHash, pc := .loading 0 } ∧ s.gateway.now = t₀ ∧
    fetch rpcError s.world.db s.world.now keyHash = .ok m

/-- The invariant: the log is the cache's, and what it has from the backend the backend had. -/
structure History (past : List Label) (r : Deployment × Log) : Prop where
  reached : exec (step rpcError p hashApiKey) (start w₀ c) past = some r.1
  world : r.1.world = w₀.run p hashApiKey (backendLabels past)
  logged : Logged c.ttl c.loaders r.1.gateway r.2
  had : ∀ t₀ j keyHash m, (t₀, .loaded j keyHash m) ∈ r.2 →
    Had rpcError p hashApiKey w₀ c past t₀ j keyHash m

variable {rpcError p hashApiKey w₀ c} {past : List Label} {r r' : Deployment × Log}

theorem Had.append {t₀ : ℤ} {j : ℕ} {keyHash : String} {m : Metadata}
    (h : Had rpcError p hashApiKey w₀ c past t₀ j keyHash m) (l : Label) :
    Had rpcError p hashApiKey w₀ c (past ++ [l]) t₀ j keyHash m := by
  rcases h with ⟨earlier, s, hearlier, hs⟩
  exact ⟨earlier, s, hearlier.trans (List.prefix_append past [l]), hs⟩

/-- The backend's labels go on with what the last step lets the backend do. -/
theorem run_backendLabels_append (past : List Label) (l : Label) :
    w₀.run p hashApiKey (backendLabels (past ++ [l])) =
      (w₀.run p hashApiKey (backendLabels past)).run p hashApiKey (backendLabel l).toList := by
  cases hl : backendLabel l <;>
    simp [backendLabels, List.filterMap_append, hl, Backend.KeyLife.World.run]

theorem logged_holding {g : System} {log : Log} (h : Logged c.ttl c.loaders g log)
    (content : Option Metadata) : Logged c.ttl c.loaders (holding g content) log where
  ttl_eq := h.ttl_eq
  loaders_eq := h.loaders_eq
  cached := h.cached
  calls := h.calls
  justified := h.justified

theorem History.step (h : History rpcError p hashApiKey w₀ c past r)
    (hstep : loggedStep rpcError p hashApiKey r l = some r') :
    History rpcError p hashApiKey w₀ c (past ++ [l]) r' := by
  rcases r with ⟨s, log⟩
  rcases Option.map_eq_some_iff.1 hstep with ⟨t, ht, rfl⟩
  have hhad : ∀ t₀ j keyHash m,
      (t₀, .loaded j keyHash m) ∈ (emit rpcError s l).toList ++ log →
        Had rpcError p hashApiKey w₀ c (past ++ [l]) t₀ j keyHash m := by
    intro t₀ j keyHash m hmem
    rcases List.mem_append.1 hmem with hnew | hold
    · rcases fetch_of_emit (Option.mem_toList.1 hnew) with ⟨rfl, hget, rfl, hfetch⟩
      exact ⟨past, s, List.prefix_rfl, h.reached, h.world, hget, rfl, hfetch⟩
    · exact (h.had t₀ j keyHash m hold).append l
  have hreached : exec (Admission.step rpcError p hashApiKey) (start w₀ c) (past ++ [l]) =
      some t := exec_append.2 ⟨s, h.reached, exec_cons.2 ⟨t, ht, rfl⟩⟩
  have hworld : w₀.run p hashApiKey (backendLabels (past ++ [l])) =
      s.world.run p hashApiKey (backendLabel l).toList := by
    rw [run_backendLabels_append, ← h.world]
  rcases step_cases ht with ⟨d, rfl, rfl⟩ | ⟨bl, rfl, rfl⟩ | ⟨a, g, hnone, -, hg, rfl, hshown⟩
  · refine { reached := hreached, world := hworld.symm, logged := ?_, had := hhad }
    have hlater : s.gateway.now ≤ s.gateway.now + (1000 * d : ℕ) := by omega
    exact h.logged.of_shown (l := .tick (1000 * d)) (.quiet rfl rfl hlater)
  · exact { reached := hreached, world := hworld.symm, logged := h.logged, had := hhad }
  · rw [hnone] at hworld
    refine { reached := hreached, world := hworld.symm, logged := ?_, had := hhad }
    show Logged c.ttl c.loaders g ((emit rpcError s l).toList ++ log)
    rw [hshown]
    exact (logged_holding h.logged a.1).of_shown (Gateway.AuthCache.shown_of_step hg)

theorem history_start (hdata : c.data = ∅) :
    History rpcError p hashApiKey w₀ c [] (start w₀ c, []) := by
  refine { reached := rfl, world := rfl, logged := ?_, had := by simp }
  refine
    { ttl_eq := rfl
      loaders_eq := rfl
      cached := ?_
      calls := ?_
      justified := trivial }
  · intro key m hm
    rw [show (start w₀ c).gateway.cache = c from rfl, hdata] at hm
    cases hm
  · intro i g hg
    cases hg

theorem exists_of_throughout {P : Log → ℤ × Event → Prop} {log : Log} (h : Throughout P log)
    {e : ℤ × Event} (he : e ∈ log) : ∃ before, before ⊆ log ∧ P before e := by
  induction log with
  | nil => cases he
  | cons e' log ih =>
      rcases List.mem_cons.1 he with rfl | he
      · exact ⟨log, List.subset_cons_self _ _, h.1⟩
      · rcases ih h.2 he with ⟨before, hbefore, hP⟩
        exact ⟨before, List.subset_cons_of_subset _ hbefore, hP⟩

variable (rpcError p hashApiKey w₀ c)

/-- Valid metadata that is returned was stamped by a call that had asked the backend: when it did,
the key was live, and the metadata are of its row and of the credit that was usable then.  The call
is the one that returns, or it stamped them less than `ttl` before. -/
def Vouched (ls : List Label) (log : Log) : ℤ × Event → Prop
  | (t, .returned i keyHash m) =>
      m.valid = true →
        ∃ j earlier s k usable, earlier ++ [.ask j none] <+: ls ∧
          exec (step rpcError p hashApiKey) (start w₀ c) earlier = some s ∧
          s.gateway.gets[j]? = some { key := keyHash, pc := .loading 0 } ∧
          Live p hashApiKey w₀ earlier s.world keyHash k ∧
          (toDomain k.orgId (getForUpdate s.world.db k.orgId)).usable = .ok usable ∧
          m = { arriving k (getForUpdate s.world.db k.orgId) usable with
                cachedAt := m.cachedAt } ∧
          s.gateway.now ≤ m.cachedAt ∧ (m.cachedAt, .stamped j keyHash m) ∈ log ∧
          (j = i ∨ t - m.cachedAt < c.ttl)
  | _ => True

/-- However creations, revocations and suspensions in the backend fall between the steps of the
gateway's calls, a call lets a key in only on the word of the backend that it was live. -/
theorem vouched_of_run (hkeys : w₀.db.apiKeys = []) (hdata : c.data = ∅) {ls : List Label}
    {t : Deployment} {log : Log}
    (hrun : exec (loggedStep rpcError p hashApiKey) (start w₀ c, []) ls = some (t, log)) :
    ∀ e ∈ log, Vouched rpcError p hashApiKey w₀ c ls log e := by
  have hhistory : History rpcError p hashApiKey w₀ c ls (t, log) :=
    exec_history (history_start hdata) (fun _ _ _ _ h hstep => h.step hstep) hrun
  rintro ⟨t₂, event⟩ he
  cases event with
  | loaded | missed | stamped => trivial
  | returned i keyHash m =>
      intro hvalid
      rcases exists_of_throughout hhistory.logged.justified he with
        ⟨before, hbefore, j, t₁, hstamped, rfl, hsource, hrecent⟩
      rcases hsource with ⟨t₀, m₀, hloaded, hm, hle⟩ | ⟨hnegative, -⟩
      · rcases hhistory.had t₀ j keyHash m₀ (hbefore hloaded) with
          ⟨earlier, s, hearlier, hs, hworld, hget, rfl, hfetch⟩
        have hvalid₀ : m₀.valid = true := by
          rw [hm] at hvalid
          exact hvalid
        have hinv : Backend.KeyLife.Inv p hashApiKey s.world
            (committed p hashApiKey w₀ (backendLabels earlier)) := by
          rw [hworld]
          exact Backend.KeyLife.inv_run hkeys _
        rcases live_of_fetch hinv hfetch hvalid₀ with ⟨k, usable, hlive, husable, rfl⟩
        exact ⟨j, earlier, s, k, usable, hearlier, hs, hget, hlive, husable, hm, hle,
          hbefore hstamped, hrecent⟩
      · -- The negative entry is not valid.
        rw [hnegative] at hvalid
        cases hvalid

end Runs

/-! ### A key that is revoked while it is cached -/

/-- Redis, then the backend; entries are good for a minute. -/
def minuteCache : Cache where
  ttl := 60000000000
  loaders := 2
  data := ∅
  cap := 10
  loaders_pos := Nat.two_pos
  cap_pos := Nat.succ_pos 9

open Backend.KeyLife (clearPlatform drawsOf oneUserDb)

/-- A key is created, used and revoked, and used again from the cache. -/
def usedAfterRevoked : List Label :=
  [.backend (.createKey (drawsOf 1 "a") "salt" { orgId := 1, userId := 7, name := "a" } []),
    .call "a", .read 0, .front 0 none, .ask 0 none, .stamp 0, .put 0 "",
    .backend (.revokeKey (drawsOf 0 "") 1 "leaked"), .tick 1, .call "a", .read 1]

/-- The call that an event ends, its key, and what it returns. -/
def endOf : Event → Option (ℕ × String × Metadata)
  | .loaded _ _ _ => none
  | .missed _ _ _ => none
  | .stamped _ _ _ => none
  | .returned i key m => some (i, key, m)

theorem endOf_eq_some {e : Event} {i : ℕ} {key : String} {m : Metadata}
    (h : endOf e = some (i, key, m)) : e = .returned i key m := by
  cases e with
  | returned i' key' m' =>
      cases h
      rfl
  | loaded | missed | stamped => cases h

theorem vouched_of_run_usedAfterRevoked :
    ∃ t log m, exec (loggedStep (fun _ => "") clearPlatform fun _ q => q)
        (start { now := 0, db := oneUserDb } minuteCache, []) usedAfterRevoked = some (t, log) ∧
      (1000, .returned 1 "a" m) ∈ log ∧ m.valid = true ∧
      ∀ e ∈ log, Vouched (fun _ => "") clearPlatform (fun _ q => q)
        { now := 0, db := oneUserDb } minuteCache usedAfterRevoked log e := by
  have hcheck : (exec (loggedStep (fun _ => "") clearPlatform fun _ q => q)
      (start { now := 0, db := oneUserDb } minuteCache, []) usedAfterRevoked).any (fun r =>
        r.2.any fun e => e.1 == 1000 && (endOf e.2).any fun g =>
          g.1 == 1 && g.2.1 == "a" && g.2.2.valid) = true := by decide +kernel
  rcases (Option.any_eq_true _ _).1 hcheck with ⟨⟨t, log⟩, hrun, hlogged⟩
  rcases List.any_eq_true.1 hlogged with ⟨⟨instant, e⟩, hmem, hlast⟩
  rcases Bool.and_eq_true_iff.1 hlast with ⟨hinstant, hends⟩
  rcases (Option.any_eq_true _ _).1 hends with ⟨⟨i, key, m⟩, he, hg⟩
  simp only [Bool.and_eq_true, beq_iff_eq] at hinstant hg
  rcases hg with ⟨⟨rfl, rfl⟩, hvalid⟩
  have hevent : e = .returned 1 "a" m := endOf_eq_some he
  rw [hinstant, hevent] at hmem
  exact ⟨t, log, m, hrun, hmem, hvalid, vouched_of_run _ _ _ _ _ rfl rfl hrun⟩

end Admission
end Wire
end OpenRouter
