import OpenRouter.Backend.PricingCache
import OpenRouter.Gateway.Loaders
import OpenRouter.Gateway.Middleware

/-!
# SharedRedis — the components that keep their keys in one Redis

The rate limiter, the auth loader, the L1 response cache and the backend's pricing cache are given
the same Redis, as is Celery.  `replies_shared` says that in any interleaving each of them is
answered as by a Redis of its own, and that nobody ever finds a key of the auth loader or of the
response cache; `serve_of_shared` is what that comes to for a request.
-/

namespace OpenRouter
namespace Wire

open Base Gateway

namespace SharedRedis

/-! ## Redis -/

inductive Value
  | string (raw : Bytes)
  | sortedSet (z : RateLimit.ZSet String)

/-- A value with the instant, in ms, at which it expires. -/
structure Item where
  value : Value
  expireAt : Option ℤ

/-- The answer to a command on a value of another type. -/
def wrongType : String :=
  "WRONGTYPE Operation against a key holding the wrong kind of value"

abbrev Redis : Type :=
  String → Option Item

namespace Redis

/-- The item that a command at `now` finds; an expired one is gone. -/
def find (redis : Redis) (now : ℤ) (key : String) : Option Item :=
  (redis key).filter fun item => item.expireAt.all (now ≤ ·)

/-- `GET`. -/
def get (redis : Redis) (now : ℤ) (key : String) : Except String (Option Bytes) :=
  match redis.find now key with
  | none => .ok none
  | some { value := .string raw, .. } => .ok (some raw)
  | some { value := .sortedSet _, .. } => .error wrongType

/-- `SET` with `EX`. -/
def set (redis : Redis) (now : ℤ) (key : String) (raw : Bytes) (ex : ℤ) : Redis :=
  Function.update redis key (some { value := .string raw, expireAt := some (now + ex * 1000) })

/-- `DEL`. -/
def delete (redis : Redis) (key : String) : Redis :=
  Function.update redis key none

/-- The sorted set that a script at `now` works on. -/
def bucket (redis : Redis) (now : ℤ) (key : String) : Except String (RateLimit.Bucket String) :=
  match redis.find now key with
  | none => .ok RateLimit.Bucket.empty
  | some { value := .sortedSet z, expireAt } => .ok { zset := z, expireAt := expireAt }
  | some { value := .string _, .. } => .error wrongType

/-- The item of a sorted set that has an element. -/
def setBucket (redis : Redis) (key : String) (b : RateLimit.Bucket String) : Redis :=
  Function.update redis key (some { value := .sortedSet b.zset, expireAt := b.expireAt })

end Redis

/-! ## The components -/

/-- A key that is none of the components': those of Celery are such. -/
structure ForeignKey where
  key : String
  limiter : ∀ id, key ≠ "rl:" ++ id
  auth : ∀ id, key ≠ "auth:" ++ id
  exact : ∀ id, key ≠ "cache:l1:" ++ id
  pricing : ∀ id, key ≠ Backend.PricingRepository.cacheNs ++ id

/-- What is done with Redis.  The response cache has a `Put`, which nobody calls, and no component
has an entry of the auth loader to store. -/
inductive Request
  /-- `redisLimiter.Check`. -/
  | check (k : RateLimit.Key) (c : RateLimit.Call)
  /-- `redisLoader.Load`. -/
  | load (now : ℤ) (keyHash : String)
  /-- `redisExact.Get`. -/
  | exactGet (now : ℤ) (key : String)
  /-- `_cache_get`. -/
  | pricingGet (now : ℤ) (modelKey : String)
  /-- `_cache_set`. -/
  | pricingSet (now : ℤ) (modelKey : String) (p : Backend.PricingRepository.DecimalPricing)
  /-- `invalidate`. -/
  | pricingInvalidate (modelKey : String)
  /-- Somebody else. -/
  | foreign (k : ForeignKey) (item : Option Item)

inductive Reply
  | checked (result : Option RateLimit.Result)
  | loaded (answer : AuthCache.Loaded)
  | found (hit : Except GoError (Option Entry))
  | pricing (p : Except String
      (Except Backend.PricingRepository.Raised (Option Backend.PricingRepository.DecimalPricing)))
  | done

/-- What the components do with the bytes that they find. -/
structure Decoders where
  /-- `json.Unmarshal` into a `Metadata`. -/
  metadata : Bytes → Except String AuthCache.Metadata
  /-- `json.Unmarshal` into an `Entry`. -/
  entry : Bytes → Except GoError Entry
  /-- `Decimal(…)` of what is not a string. -/
  convert : Backend.PricingRepository.Convert

/-- `redisLimiter.Check`, on a Redis that others use. -/
def check (redis : Redis) (k : RateLimit.Key) (c : RateLimit.Call) :
    Redis × Option RateLimit.Result :=
  if k.requestsPerMinute = 0 then
    (redis,
      some { allowed := true, limit := 0, remaining := 0, resetAt := c.unixMilli + 60000 })
  else if c.trip = .notRun then (redis, none)
  else
    match redis.bucket c.unixMilli (RateLimit.bucketKey k) with
    | .error _ => (redis, none)
    | .ok b =>
        let (b', allowed, remaining, resetMs) :=
          RateLimit.slidingWindowScript b RateLimit.windowMs k.requestsPerMinute.toNat c.unixMilli
            c.member
        (redis.setBucket (RateLimit.bucketKey k) b',
          if c.trip = .lostReply then none
          else
            some
              { allowed := decide (allowed = 1)
                limit := k.requestsPerMinute
                remaining := UInt32.ofInt remaining
                resetAt := resetMs })

/-- `redisExact.Get` on the reply to `GET`. -/
def exactGet (decode : Bytes → Except GoError Entry) :
    Except String (Option Bytes) → Except GoError (Option Entry)
  | .error err => .error (.text err)
  | .ok none => .ok none
  | .ok (some val) => (decode val).map some

/-- `_cache_get` on the reply to `GET`. -/
def decodeCached (convert : Backend.PricingRepository.Convert) :
    Option Bytes →
      Except Backend.PricingRepository.Raised (Option Backend.PricingRepository.DecimalPricing)
  | none => .ok none
  | some raw => do
      let data ← Backend.PricingRepository.loads raw
      some <$> Backend.PricingRepository.ofJson convert data

open Backend.PricingRepository (cacheNs cacheTtlS body)

def shared (d : Decoders) (redis : Redis) : Request → Reply × Redis
  | .check k c => (.checked (check redis k c).2, (check redis k c).1)
  | .load now keyHash =>
      (.loaded (AuthCache.redisLoad d.metadata (redis.get now ("auth:" ++ keyHash))), redis)
  | .exactGet now key => (.found (exactGet d.entry (redis.get now ("cache:l1:" ++ key))), redis)
  | .pricingGet now modelKey =>
      (.pricing ((redis.get now (cacheNs ++ modelKey)).map (decodeCached d.convert)), redis)
  | .pricingSet now modelKey p =>
      (.done, redis.set now (cacheNs ++ modelKey) (encode (dumps (body p))) cacheTtlS)
  | .pricingInvalidate modelKey => (.done, redis.delete (cacheNs ++ modelKey))
  | .foreign k item => (.done, Function.update redis k.key item)

/-! ## A Redis for each -/

/-- What the limiter and the pricing cache keep; the others keep nothing. -/
structure Separate where
  buckets : RateLimit.Store
  pricings : Backend.PricingRepository.Redis

def Separate.empty : Separate :=
  { buckets := RateLimit.emptyStore, pricings := fun _ => none }

/-- The components with what each of them has to itself. -/
def separate (d : Decoders) (s : Separate) : Request → Reply × Separate
  | .check k c =>
      (.checked (RateLimit.check s.buckets k c).2,
        { s with buckets := (RateLimit.check s.buckets k c).1 })
  | .load _ _ => (.loaded (.error .miss), s)
  | .exactGet _ _ => (.found (.ok none), s)
  | .pricingGet now modelKey =>
      (.pricing (.ok (Backend.PricingRepository.cacheGet d.convert s.pricings now modelKey)), s)
  | .pricingSet now modelKey p =>
      (.done,
        { s with pricings := Backend.PricingRepository.cacheSet s.pricings now modelKey p })
  | .pricingInvalidate modelKey =>
      (.done, { s with pricings := s.pricings.delete (cacheNs ++ modelKey) })
  | .foreign _ _ => (.done, s)

/-! ## What is where -/

/-- The item is a bucket of the limiter, or there is none and the bucket is empty. -/
def IsBucket (item : Option Item) (b : RateLimit.Bucket String) : Prop :=
  match item with
  | none => b = RateLimit.Bucket.empty
  | some item => item = { value := .sortedSet b.zset, expireAt := b.expireAt }

/-- The item is an entry of the pricing cache. -/
def pricingItem (e : Backend.PricingRepository.Entry) : Item where
  value := .string e.value
  expireAt := some e.expireAt

/-- Each component's keys are as in a Redis of its own. -/
structure Together (redis : Redis) (s : Separate) : Prop where
  limiter : ∀ id, IsBucket (redis ("rl:" ++ id)) (s.buckets ("rl:" ++ id))
  auth : ∀ id, redis ("auth:" ++ id) = none
  exact : ∀ id, redis ("cache:l1:" ++ id) = none
  pricing : ∀ id, redis (cacheNs ++ id) = (s.pricings (cacheNs ++ id)).map pricingItem

/-! ### Names -/

/-- Names whose components are told apart by the first character. -/
theorem append_ne {p q : String} (h : p.toList.head? ≠ q.toList.head?)
    (hp : p.toList ≠ []) (hq : q.toList ≠ []) (a b : String) : p ++ a ≠ q ++ b := by
  intro heq
  have hhead : (p ++ a).toList.head? = (q ++ b).toList.head? := by rw [heq]
  rw [String.toList_append, String.toList_append, List.head?_append_of_ne_nil _ hp,
    List.head?_append_of_ne_nil _ hq] at hhead
  exact h hhead

theorem limiter_ne_auth (a b : String) : "rl:" ++ a ≠ "auth:" ++ b :=
  append_ne (by decide) (by decide) (by decide) a b

theorem limiter_ne_exact (a b : String) : "rl:" ++ a ≠ "cache:l1:" ++ b :=
  append_ne (by decide) (by decide) (by decide) a b

theorem limiter_ne_pricing (a b : String) : "rl:" ++ a ≠ cacheNs ++ b :=
  append_ne (by decide) (by decide) (by decide) a b

theorem auth_ne_pricing (a b : String) : "auth:" ++ a ≠ cacheNs ++ b :=
  append_ne (by decide) (by decide) (by decide) a b

theorem exact_ne_pricing (a b : String) : "cache:l1:" ++ a ≠ cacheNs ++ b :=
  append_ne (by decide) (by decide) (by decide) a b

/-! ### What a command finds -/

variable {redis : Redis} {s : Separate} {now : ℤ} {key : String}

theorem bucket_of_isBucket {b : RateLimit.Bucket String} (h : IsBucket (redis key) b) :
    redis.bucket now key = .ok (b.live now) := by
  unfold Redis.bucket Redis.find
  cases hitem : redis key with
  | none =>
      rw [hitem] at h
      have hempty : b = RateLimit.Bucket.empty := h
      subst hempty
      rfl
  | some item =>
      rw [hitem] at h
      have hval : item = { value := .sortedSet b.zset, expireAt := b.expireAt } := h
      subst hval
      rcases b with ⟨z, _ | t⟩
      · rfl
      · by_cases hlive : t < now
        · have hgone : ¬ now ≤ t := not_le.2 hlive
          simp [Option.filter, RateLimit.Bucket.live, hlive, hgone]
        · have hhere : now ≤ t := not_lt.1 hlive
          simp [Option.filter, RateLimit.Bucket.live, hlive, hhere]

theorem live_live {α : Type} (b : RateLimit.Bucket α) (now : ℤ) :
    (b.live now).live now = b.live now := by
  rcases b with ⟨z, _ | t⟩
  · rfl
  · by_cases h : t < now
    · simp [RateLimit.Bucket.live, h, RateLimit.Bucket.empty]
    · simp [RateLimit.Bucket.live, h]

/-- The script does not see a bucket that has expired. -/
theorem script_live (b : RateLimit.Bucket String) (window limit now : ℤ) (member : String) :
    RateLimit.slidingWindowScript (b.live now) window limit now member =
      RateLimit.slidingWindowScript b window limit now member := by
  unfold RateLimit.slidingWindowScript RateLimit.pruned
  rw [live_live]

theorem get_of_pricing {e : Option Backend.PricingRepository.Entry}
    (pricings : Backend.PricingRepository.Redis) (he : pricings key = e)
    (h : redis key = e.map pricingItem) : redis.get now key = .ok (pricings.get now key) := by
  unfold Redis.get Redis.find Backend.PricingRepository.Redis.get
  rw [h, he]
  cases e with
  | none => rfl
  | some e =>
      by_cases hlive : e.expireAt < now
      · have hgone : ¬ now ≤ e.expireAt := not_le.2 hlive
        simp [Option.filter, pricingItem, hlive, hgone]
      · have hhere : now ≤ e.expireAt := not_lt.1 hlive
        simp [Option.filter, pricingItem, hlive, hhere]

theorem get_of_none (h : redis key = none) : redis.get now key = .ok none := by
  unfold Redis.get Redis.find
  rw [h]
  rfl

theorem cacheGet_eq (convert : Backend.PricingRepository.Convert)
    (pricings : Backend.PricingRepository.Redis) (now : ℤ) (modelKey : String) :
    Backend.PricingRepository.cacheGet convert pricings now modelKey =
      decodeCached convert (pricings.get now (cacheNs ++ modelKey)) := by
  unfold Backend.PricingRepository.cacheGet
  cases pricings.get now (cacheNs ++ modelKey) with
  | none => rfl
  | some raw => rfl

/-! ## Steps -/

namespace Together

/-- A write to a key of the limiter. -/
theorem setBucket (h : Together redis s) (id : String) (b : RateLimit.Bucket String) :
    Together (redis.setBucket ("rl:" ++ id) b)
      { s with buckets := RateLimit.setBucket s.buckets ("rl:" ++ id) b } where
  limiter id' := by
    by_cases hid : "rl:" ++ id' = "rl:" ++ id
    · rw [hid, Redis.setBucket, Function.update_self]
      simp [IsBucket, RateLimit.setBucket]
    · rw [Redis.setBucket, Function.update_of_ne hid]
      simpa [RateLimit.setBucket, hid] using h.limiter id'
  auth id' := by
    rw [Redis.setBucket, Function.update_of_ne (limiter_ne_auth id id').symm]
    exact h.auth id'
  exact id' := by
    rw [Redis.setBucket, Function.update_of_ne (limiter_ne_exact id id').symm]
    exact h.exact id'
  pricing id' := by
    rw [Redis.setBucket, Function.update_of_ne (limiter_ne_pricing id id').symm]
    exact h.pricing id'

/-- A write to a key of the pricing cache. -/
theorem update (h : Together redis s) (id : String)
    (e : Option Backend.PricingRepository.Entry) :
    Together (Function.update redis (cacheNs ++ id) (e.map pricingItem))
      { s with pricings := Function.update s.pricings (cacheNs ++ id) e } where
  limiter id' := by
    rw [Function.update_of_ne (limiter_ne_pricing id' id)]
    exact h.limiter id'
  auth id' := by
    rw [Function.update_of_ne (auth_ne_pricing id' id)]
    exact h.auth id'
  exact id' := by
    rw [Function.update_of_ne (exact_ne_pricing id' id)]
    exact h.exact id'
  pricing id' := by
    by_cases hid : cacheNs ++ id' = cacheNs ++ id
    · simp only [hid, Function.update_self]
    · simp only [Function.update_of_ne hid]
      exact h.pricing id'

/-- A write to a key of somebody else. -/
theorem foreign (h : Together redis s) (k : ForeignKey) (item : Option Item) :
    Together (Function.update redis k.key item) s where
  limiter id := by
    rw [Function.update_of_ne (k.limiter id).symm]
    exact h.limiter id
  auth id := by
    rw [Function.update_of_ne (k.auth id).symm]
    exact h.auth id
  exact id := by
    rw [Function.update_of_ne (k.exact id).symm]
    exact h.exact id
  pricing id := by
    rw [Function.update_of_ne (k.pricing id).symm]
    exact h.pricing id

theorem check (h : Together redis s) (k : RateLimit.Key) (c : RateLimit.Call) :
    (SharedRedis.check redis k c).2 = (RateLimit.check s.buckets k c).2 ∧
      Together (SharedRedis.check redis k c).1
        { s with buckets := (RateLimit.check s.buckets k c).1 } := by
  unfold SharedRedis.check RateLimit.check
  by_cases hlimit : k.requestsPerMinute = 0
  · rw [if_pos hlimit, if_pos hlimit]
    exact ⟨rfl, h⟩
  · rw [if_neg hlimit, if_neg hlimit]
    -- The limiter finds its own bucket, which is none of another type.
    have hbucket : redis.bucket c.unixMilli (RateLimit.bucketKey k) =
        .ok ((s.buckets (RateLimit.bucketKey k)).live c.unixMilli) :=
      bucket_of_isBucket (h.limiter k.keyID)
    rw [hbucket]
    simp only [script_live]
    cases htrip : c.trip with
    | notRun => exact ⟨rfl, h⟩
    | lostReply => exact ⟨rfl, h.setBucket k.keyID _⟩
    | answered => exact ⟨rfl, h.setBucket k.keyID _⟩

/-- The step lemma: the same reply, and each component's keys as they would be on their own. -/
theorem step (d : Decoders) (h : Together redis s) (r : Request) :
    (shared d redis r).1 = (separate d s r).1 ∧
      Together (shared d redis r).2 (separate d s r).2 := by
  cases r with
  | check k c =>
      rcases h.check k c with ⟨hresult, hnext⟩
      exact ⟨congrArg Reply.checked hresult, hnext⟩
  | load now keyHash =>
      refine ⟨?_, h⟩
      show Reply.loaded _ = Reply.loaded _
      rw [get_of_none (h.auth keyHash)]
      rfl
  | exactGet now key =>
      refine ⟨?_, h⟩
      show Reply.found _ = Reply.found _
      rw [get_of_none (h.exact key)]
      rfl
  | pricingGet now modelKey =>
      refine ⟨?_, h⟩
      show Reply.pricing _ = Reply.pricing _
      rw [get_of_pricing s.pricings rfl (h.pricing modelKey), cacheGet_eq]
      rfl
  | pricingSet now modelKey p =>
      have hset := h.update modelKey
        (some { value := encode (dumps (body p)), expireAt := now + cacheTtlS * 1000 })
      exact ⟨rfl, hset⟩
  | pricingInvalidate modelKey => exact ⟨rfl, h.update modelKey none⟩
  | foreign k item => exact ⟨rfl, h.foreign k item⟩

end Together

theorem together_empty : Together (fun _ => none) Separate.empty where
  limiter _ := rfl
  auth _ := rfl
  exact _ := rfl
  pricing _ := rfl

/-- In any interleaving of the components, each of them gets the replies that it would get from a
Redis of its own; those of the auth loader and of the response cache are misses. -/
theorem replies_shared (d : Decoders) (rs : List Request) :
    replies (shared d) (fun _ => none) rs = replies (separate d) Separate.empty rs :=
  (replies_of_related rs (fun _ _ r _ h => h.step d r) together_empty).1

/-! ## A request -/

/-- What `Get` of the auth cache returns when the L0 layer misses. -/
def loadThrough (stamp : ℤ) (answers : List AuthCache.Loaded) :
    Except String AuthCache.Metadata :=
  match AuthCache.fallThrough none answers with
  | .ok m => .ok { m with cachedAt := stamp }
  | .error (some .miss) => .ok { valid := false, cachedAt := stamp }
  | .error (some (.failed err)) => .error err
  | .error none => .ok {}

theorem get_eq_loadThrough (c : AuthCache.Cache) (now stamp : ℤ) (victim key : String)
    (answers : Fin c.loaders → AuthCache.Loaded) :
    (c.get now stamp victim key answers).1 =
      match c.read now key with
      | some m => .ok m
      | none => loadThrough stamp (List.ofFn answers) := by
  unfold AuthCache.Cache.get loadThrough
  cases c.read now key with
  | some m => rfl
  | none =>
      simp only
      rcases AuthCache.fallThrough none (List.ofFn answers) with (_ | _ | _) | _ <;> rfl

/-- A request's surroundings when the components have done `atAuth` before its key is looked up,
`atCheck` before it is counted and `atExact` before its response is looked up. -/
structure Moment where
  atAuth : List Request
  atCheck : List Request
  atExact : List Request
  /-- The instants at which Redis gets the two lookups, in ms. -/
  authAt : ℤ
  exactAt : ℤ
  call : RateLimit.Call

namespace Moment

/-- The surroundings over one Redis and the backend. -/
def surroundings (t : Moment) (d : Decoders)
    (backend : String → Except String AuthCache.ValidateKeyResponse) (s : ApiSurroundings) :
    ApiSurroundings :=
  { s with
    load := fun keyHash =>
      loadThrough s.now
        [AuthCache.redisLoad d.metadata
            ((afterAll (shared d) (fun _ => none) t.atAuth).get t.authAt ("auth:" ++ keyHash)),
          AuthCache.validate (backend keyHash)]
    check := fun k => (check (afterAll (shared d) (fun _ => none) t.atCheck) k t.call).2
    cacheGet := fun key =>
      exactGet d.entry
        ((afterAll (shared d) (fun _ => none) t.atExact).get t.exactAt ("cache:l1:" ++ key)) }

/-- The surroundings with no Redis but the limiter's own, and no response cache. -/
def alone (t : Moment) (d : Decoders)
    (backend : String → Except String AuthCache.ValidateKeyResponse) (s : ApiSurroundings) :
    ApiSurroundings :=
  { s with
    load := fun keyHash => loadThrough s.now [AuthCache.validate (backend keyHash)]
    check := fun k =>
      (RateLimit.check (afterAll (separate d) Separate.empty t.atCheck).buckets k t.call).2
    cacheGet := fun _ => .error (.text "no cache") }

end Moment

theorem together_after (d : Decoders) (rs : List Request) :
    Together (afterAll (shared d) (fun _ => none) rs) (afterAll (separate d) Separate.empty rs) :=
  (replies_of_related rs (fun _ _ r _ h => h.step d r) together_empty).2

/-- A loader that misses is as good as none in front of another. -/
theorem loadThrough_miss (stamp : ℤ) (a : AuthCache.Loaded) :
    loadThrough stamp [.error .miss, a] = loadThrough stamp [a] := by
  rcases a with (_ | _) | _ <;> rfl

/-- Where no lookup hits, a client gets the same answer as one that asks for no cache. -/
theorem create_of_miss (p : Proxy) {s s' : Surroundings} (r : Gateway.Request) (x : Exchange)
    (hattempts : s'.attempts = s.attempts) (hmiss : ∀ key, s.cacheHit key = none) :
    p.create s r x = p.create s' { r with noCache := "true" } x := by
  have hcreate : ∀ req body, p.createMiss s req body x = p.createMiss s' req body x := by
    intro req body
    unfold Proxy.createMiss
    rw [hattempts]
  unfold Proxy.create
  simp only [hmiss, hcreate, ite_self, ne_eq, not_true_eq_false, and_false, if_false]

theorem handle_of_miss (p : Proxy) {s s' : ApiSurroundings} (r : ApiRequest) (x : Exchange)
    (hattempts : s'.attempts = s.attempts) (hmiss : ∀ key, s.cacheHit key = none) :
    p.handle s r x = p.handle s' { r with noCache := "true" } x := by
  have hproxied : ∀ y, p.proxyTo s.toSurroundings r.toRequest y =
      p.proxyTo s'.toSurroundings { r.toRequest with noCache := "true" } y := by
    intro y
    unfold Proxy.proxyTo
    rw [hattempts]
  unfold Proxy.handle
  cases r.route with
  | chatCompletions => exact create_of_miss p r.toRequest x hattempts hmiss
  | embeddings | imagesGenerations | audioTranscriptions | rerank => exact hproxied x
  | videos | videoStatus | videoContent | models => rfl

/-- Whatever the components have done to the Redis before, a request is answered as by a gateway
that has neither the response cache nor the Redis layer of the auth cache, and whose limiter has a
Redis to itself. -/
theorem serve_of_shared (p : Proxy) (d : Decoders) (t : Moment)
    (backend : String → Except String AuthCache.ValidateKeyResponse) (s : ApiSurroundings)
    (r : ApiRequest) (x : Exchange) :
    p.serve (t.surroundings d backend s) r x =
      p.serve (t.alone d backend s) { r with noCache := "true" } x := by
  have hload : (t.surroundings d backend s).load = (t.alone d backend s).load := by
    funext keyHash
    have hnone := (together_after d t.atAuth).auth keyHash
    have hmiss : AuthCache.redisLoad d.metadata
        ((afterAll (shared d) (fun _ => none) t.atAuth).get t.authAt ("auth:" ++ keyHash)) =
          .error .miss := by
      rw [get_of_none hnone]
      rfl
    show loadThrough s.now [_, _] = loadThrough s.now [_]
    rw [hmiss, loadThrough_miss]
  have hcheck : (t.surroundings d backend s).check = (t.alone d backend s).check := by
    funext k
    exact ((together_after d t.atCheck).check k t.call).1
  have hhit : ∀ key, (t.surroundings d backend s).cacheHit key = none := by
    intro key
    have hnone := (together_after d t.atExact).exact key
    have hfound : (t.surroundings d backend s).cacheGet key = .ok none := by
      show exactGet d.entry _ = .ok none
      rw [get_of_none hnone]
      rfl
    unfold Surroundings.cacheHit
    rw [hfound]
  have hhandle : ∀ y, p.handle (t.surroundings d backend s) r y =
      p.handle (t.alone d backend s) { r with noCache := "true" } y :=
    fun y => handle_of_miss p r y rfl hhit
  have hget : ∀ keyHash, (t.surroundings d backend s).authGet keyHash =
      (t.alone d backend s).authGet keyHash := by
    intro keyHash
    unfold ApiSurroundings.authGet
    rw [hload]
    rfl
  have hlimit : ∀ ident y,
      rateLimit (t.surroundings d backend s) (p.handle (t.surroundings d backend s) r) ident y =
        rateLimit (t.alone d backend s)
          (p.handle (t.alone d backend s) { r with noCache := "true" }) ident y := by
    intro ident y
    unfold rateLimit rateLimitResult
    rw [hcheck]
    simp only [hhandle]
    rfl
  unfold Proxy.serve auth
  simp only [hget, hlimit]

end SharedRedis
end Wire
end OpenRouter
