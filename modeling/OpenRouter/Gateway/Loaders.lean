import Mathlib.Data.Fin.VecNotation
import Mathlib.Data.List.TakeWhile
import OpenRouter.Base.Utf8
import OpenRouter.Gateway.AuthCache

/-!
# Loaders — how one `Get` falls through its loaders

The loop of `Cache.Get` over the answers of its loaders, and the two loaders of the gateway.
`promised_get_iff` says for which answers a `Get` returns what the first loader with metadata has;
`exec_loads` says that a call of the interleaved cache goes through the same loop.
-/

namespace OpenRouter
namespace Gateway
namespace AuthCache

open Base

/-! ## Loaders -/

/-- The error of a `Load`, as `errors.Is(err, ErrCacheMiss)` sees it. -/
inductive LoadError
  | miss
  | failed (err : String)
  deriving DecidableEq

abbrev Loaded : Type :=
  Except LoadError Metadata

/-- `redisLoader.Load` on the reply to `GET`: an error, `redis.Nil` (`none`) or a value; `decode`
is `json.Unmarshal` into a `Metadata`. -/
def redisLoad (decode : Bytes → Except String Metadata) : Except String (Option Bytes) → Loaded
  | .error err => .error (.failed err)
  | .ok none => .error .miss
  | .ok (some val) =>
      match decode val with
      | .error err => .error (.failed err)
      | .ok m => .ok m

/-- `authv1.ValidateKeyResponse`, as far as the client reads it. -/
structure ValidateKeyResponse where
  valid : Bool := false
  keyId : String := ""
  orgId : String := ""
  userId : String := ""
  allowedModels : List String := []
  deniedModels : List String := []
  rateLimit : Option RateLimitPolicy := none
  budget : Option BudgetPolicy := none
  expiresAt : Option ℤ := none
  revocationReason : String := ""

/-- `grpcAuthClient.Validate` on the reply to `ValidateKey`. -/
def validate : Except String ValidateKeyResponse → Loaded
  | .error err => .error (.failed ("auth: backend ValidateKey: " ++ err))
  | .ok resp =>
      if resp.valid = false ∧ resp.revocationReason = "unknown_key" then .error .miss
      else
        .ok
          { valid := resp.valid
            keyID := resp.keyId
            orgID := resp.orgId
            userID := resp.userId
            allowedModels := resp.allowedModels
            deniedModels := resp.deniedModels
            rateLimit := resp.rateLimit.getD {}
            budget := resp.budget.getD {}
            expiresAt := resp.expiresAt }

/-! ## The loop -/

/-- The loop of `Get`: the first metadata, or `lastErr` when the loop ends without. -/
def fallThrough : Option LoadError → List Loaded → Except (Option LoadError) Metadata
  | lastErr, [] => .error lastErr
  | _, .ok m :: _ => .ok m
  | _, .error .miss :: rest => fallThrough (some .miss) rest
  | _, .error (.failed err) :: _ => .error (some (.failed err))

/-- `Get` by itself: the L0 read at `now`, the loaders, and `put` of what is stamped at `stamp`. -/
def Cache.get (c : Cache) (now stamp : ℤ) (victim key : String) (answers : Fin c.loaders → Loaded) :
    Except String Metadata × Cache :=
  match c.read now key with
  | some m => (.ok m, c)
  | none =>
      match fallThrough none (List.ofFn answers) with
      | .ok m =>
          let m := { m with cachedAt := stamp }
          (.ok m, c.put victim key m)
      | .error (some .miss) =>
          let neg : Metadata := { valid := false, cachedAt := stamp }
          (.ok neg, c.put victim key neg)
      | .error (some (.failed err)) => (.error err, c)
      | .error none => (.ok {}, c)

/-! ## What a `Get` promises -/

def Loaded.missed : Loaded → Bool
  | .error .miss => true
  | _ => false

/-- The metadata of the first loader in order that has any. -/
def firstMetadata (answers : List Loaded) : Option Metadata :=
  answers.findSome? Except.toOption

def DeepestMissed (answers : List Loaded) : Prop :=
  answers.getLast? = some (.error .miss)

def DeepestFailed (answers : List Loaded) : Prop :=
  ∃ err, answers.getLast? = some (.error (.failed err))

/-- The metadata of the first loader that has any, stamped; without metadata, the negative entry
only on a miss of the deepest loader and an error only on a failure of it. -/
def Promised (answers : List Loaded) (stamp : ℤ) (r : Except String Metadata) : Prop :=
  match firstMetadata answers with
  | some m => r = .ok { m with cachedAt := stamp }
  | none =>
      (∀ m, r = .ok m → m = { cachedAt := stamp } ∧ DeepestMissed answers) ∧
        ∀ err, r = .error err → DeepestFailed answers

/-- If the first answer that is no miss is a failure, no later loader has metadata and the deepest
one fails. -/
def Undisturbed (answers : List Loaded) : Prop :=
  ∀ err rest, answers.dropWhile Loaded.missed = .error (.failed err) :: rest →
    firstMetadata rest = none ∧ DeepestFailed answers

theorem firstMetadata_dropWhile (answers : List Loaded) :
    firstMetadata (answers.dropWhile Loaded.missed) = firstMetadata answers := by
  induction answers with
  | nil => rfl
  | cons a rest ih =>
      cases hmissed : a.missed with
      | false => simp [List.dropWhile, hmissed]
      | true =>
          cases a with
          | ok m => cases hmissed
          | error err =>
              rw [List.dropWhile_cons_of_pos hmissed, ih]
              rfl

/-- The loop passes over misses only. -/
theorem fallThrough_eq (lastErr : Option LoadError) (answers : List Loaded) :
    fallThrough lastErr answers =
      match answers.dropWhile Loaded.missed with
      | [] => .error (if answers = [] then lastErr else some .miss)
      | .ok m :: _ => .ok m
      | .error err :: _ => .error (some err) := by
  induction answers generalizing lastErr with
  | nil => rfl
  | cons a rest ih =>
      cases a with
      | ok m => rfl
      | error err =>
          cases err with
          | failed err => rfl
          | miss =>
              have hdrop : (Except.error LoadError.miss :: rest).dropWhile Loaded.missed =
                  rest.dropWhile Loaded.missed := rfl
              rw [fallThrough, ih, hdrop]
              cases hrest : rest.dropWhile Loaded.missed with
              | nil => simp
              | cons b more => cases b <;> rfl

/-- After the misses comes something else. -/
theorem missed_head {answers rest : List Loaded} {a : Loaded}
    (h : answers.dropWhile Loaded.missed = a :: rest) : a.missed = false := by
  have hhead := List.head?_dropWhile_not Loaded.missed answers
  simpa [h] using hhead

theorem deepestMissed_of_dropWhile {answers : List Loaded} (hne : answers ≠ [])
    (h : answers.dropWhile Loaded.missed = []) : DeepestMissed answers := by
  have hall := List.dropWhile_eq_nil_iff.1 h
  have hlast := hall (answers.getLast hne) (List.getLast_mem hne)
  have hmiss : answers.getLast hne = .error .miss := by
    cases hvalue : answers.getLast hne with
    | ok m => simp [hvalue, Loaded.missed] at hlast
    | error err =>
        cases err with
        | miss => rfl
        | failed err => simp [hvalue, Loaded.missed] at hlast
  rw [DeepestMissed, List.getLast?_eq_some_getLast hne, hmiss]

/-- A `Get` that L0 does not serve keeps its promise exactly when no failure comes in the way. -/
theorem promised_get_iff (c : Cache) (now stamp : ℤ) (victim key : String)
    (answers : Fin c.loaders → Loaded) (hmiss : c.read now key = none) :
    Promised (List.ofFn answers) stamp (c.get now stamp victim key answers).1 ↔
      Undisturbed (List.ofFn answers) := by
  have hne : List.ofFn answers ≠ [] := by
    rw [ne_eq, List.ofFn_eq_nil_iff]
    exact Nat.ne_of_gt c.loaders_pos
  generalize hlist : List.ofFn answers = as at hne
  have hget : (c.get now stamp victim key answers).1 =
      match fallThrough none as with
      | .ok m => .ok { m with cachedAt := stamp }
      | .error (some .miss) => .ok { cachedAt := stamp }
      | .error (some (.failed err)) => .error err
      | .error none => .ok {} := by
    simp only [Cache.get, hmiss, hlist]
    split <;> rfl
  rw [hget, fallThrough_eq]
  cases hdrop : as.dropWhile Loaded.missed with
  -- What decides is the first answer that is no miss.
  | nil =>
      have hfirst : firstMetadata as = none := by
        rw [← firstMetadata_dropWhile, hdrop]
        rfl
      have hdeepest := deepestMissed_of_dropWhile hne hdrop
      simp [Promised, Undisturbed, hfirst, hne, hdrop, hdeepest]
  | cons a rest =>
      cases a with
      | ok m =>
          have hfirst : firstMetadata as = some m := by
            rw [← firstMetadata_dropWhile, hdrop]
            rfl
          simp [Promised, Undisturbed, hfirst, hdrop]
      | error err =>
          cases err with
          | miss => exact absurd (missed_head hdrop) (by decide)
          | failed err =>
              have hfirst : firstMetadata as = firstMetadata rest := by
                rw [← firstMetadata_dropWhile, hdrop]
                rfl
              cases hrest : firstMetadata rest with
              | none => simp [Promised, Undisturbed, hfirst, hdrop, hrest]
              | some m => simp [Promised, Undisturbed, hfirst, hdrop, hrest]

theorem ten_pos : (0 : ℕ) < 10 :=
  Nat.succ_pos 9

/-- A cache of ten entries and one minute over Redis and the backend. -/
def twoLayers : Cache where
  ttl := 60000000000
  loaders := 2
  data := ∅
  cap := 10
  loaders_pos := Nat.two_pos
  cap_pos := ten_pos

/-- What the gateway's two loaders answer. -/
def gatewayAnswers (redis : Except String (Option Bytes))
    (backend : Except String ValidateKeyResponse) : Fin twoLayers.loaders → Loaded :=
  ![redisLoad (fun _ => .error "unexpected end of JSON input") redis, validate backend]

/-- Redis misses and the backend knows the key. -/
theorem promised_get_iff_miss :
    twoLayers.read 0 "k" = none ∧
      (Promised (List.ofFn (gatewayAnswers (.ok none) (.ok { valid := true, keyId := "key_1" }))) 0
          (twoLayers.get 0 0 "" "k"
            (gatewayAnswers (.ok none) (.ok { valid := true, keyId := "key_1" }))).1 ↔
        Undisturbed
          (List.ofFn (gatewayAnswers (.ok none) (.ok { valid := true, keyId := "key_1" })))) :=
  ⟨rfl, promised_get_iff twoLayers 0 0 "" "k" _ rfl⟩

/-- With Redis down, a key that the backend knows is not authenticated. -/
theorem redis_down_fails_get :
    ¬ ∀ (c : Cache) (now stamp : ℤ) (victim key : String) (answers : Fin c.loaders → Loaded),
      c.read now key = none →
      Promised (List.ofFn answers) stamp (c.get now stamp victim key answers).1 := by
  intro h
  have hpromised : (Except.error "dial tcp: connection refused" : Except String Metadata) =
      .ok { valid := true, keyID := "key_1" } :=
    h twoLayers 0 0 "" "k"
      (gatewayAnswers (.error "dial tcp: connection refused")
        (.ok { valid := true, keyId := "key_1" })) rfl
  cases hpromised

/-! ## The loop of an interleaved call -/

/-- What a loader of the interleaved cache answers over a store's content. -/
def Answer.loaded (content : Option Metadata) : Answer → Option Loaded
  | .content => content.map .ok
  | .miss => some (.error .miss)
  | .failed err => some (.error (.failed err))

/-- Where the outcome of the loop leaves a call. -/
def Pc.ofLoop : Except (Option LoadError) Metadata → Pc
  | .ok m => .answered m
  | .error (some (.failed err)) => .returned (.error err)
  | .error _ => .answered {}

/-- A call that is about to ask its loaders goes through the loop of `Get`. -/
theorem exec_loads {s : System} {i left : ℕ} {g : GetCall} {content : Option Metadata}
    {answers : List Answer} {as : List Loaded} (hg : s.gets[i]? = some g)
    (hpc : g.pc = .loading left) (hcontent : s.store g.key = content)
    (hlen : answers.length = left + 1)
    (has : List.Forall₂ (fun answer a => answer.loaded content = some a) answers as)
    (lastErr : Option LoadError) :
    ∃ n, exec step s ((answers.take n).map (.load i)) =
      some (s.advance i g (Pc.ofLoop (fallThrough lastErr as))) := by
  induction has generalizing s g left lastErr with
  | nil => cases hlen
  | @cons answer a answers as hanswer has ih =>
      -- One load is one turn of the loop.
      have hstep : ∀ pc, afterLoad content left answer = some pc →
          step s (.load i answer) = some (s.advance i g pc) := by
        intro pc hload
        simp [step, System.onCall, hg, hpc, hcontent, hload]
      cases answer with
      | content =>
          rcases Option.map_eq_some_iff.1 hanswer with ⟨m, hm, rfl⟩
          exact ⟨1, exec_cons.2 ⟨_, hstep (.answered m) (by simp [afterLoad, hm]), rfl⟩⟩
      | failed err =>
          cases hanswer
          exact ⟨1, exec_cons.2 ⟨_, hstep (.returned (.error err)) rfl, rfl⟩⟩
      | miss =>
          cases hanswer
          cases left with
          | zero =>
              have hnil : answers = [] := List.length_eq_zero_iff.1 (Nat.succ.inj hlen)
              subst hnil
              cases has
              exact ⟨1, exec_cons.2 ⟨_, hstep (.answered {}) rfl, rfl⟩⟩
          | succ left =>
              -- The call moves on to the next loader and keeps its place.
              let g' : GetCall := { g with pc := .loading left }
              have hlt : i < s.gets.length := (List.getElem?_eq_some_iff.1 hg).1
              have hg' : (s.advance i g (.loading left)).gets[i]? = some g' :=
                List.getElem?_set_self hlt
              have hagain : ∀ pc, (s.advance i g (.loading left)).advance i g' pc =
                  s.advance i g pc := by
                intro pc
                simp [System.advance, g']
              rcases ih hg' rfl hcontent (Nat.succ.inj hlen) (some .miss) with ⟨n, hn⟩
              rw [hagain] at hn
              exact ⟨n + 1, exec_cons.2 ⟨_, hstep (.loading left) rfl, hn⟩⟩

end AuthCache
end Gateway
end OpenRouter
