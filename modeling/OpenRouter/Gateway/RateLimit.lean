import Mathlib.Data.Int.Order.Basic
import Mathlib.Data.List.Nodup
import Mathlib.Tactic.Linarith
import OpenRouter.Base.SlidingWindow

/-!
# RateLimit — the Redis sliding-window limiter

`slidingWindowScript` is the Lua script of `ratelimit/limiter.go`, `check` is
`redisLimiter.Check` around it.  The script keeps one sorted set for each key, with one element
for each admitted call: prune, count, and add when the count is below the limit.

The abstract object is the log of admitted instants of `Base.SlidingWindow`.  As long as every
admitted call brings a *fresh* member the set is exactly the tail of that log that still counts
(`Tracks`), and the window bound follows from `Disciplined.length_inWindow_le`.
-/

namespace OpenRouter
namespace Gateway
namespace RateLimit

open Base

/-! ## Redis sorted sets -/

/-- A sorted set: members with integer scores, each member once. -/
structure ZSet (α : Type) where
  entries : List (α × ℤ)
  nodup : (entries.map Prod.fst).Nodup

namespace ZSet

variable {α : Type} [DecidableEq α]

def empty : ZSet α :=
  { entries := [], nodup := List.nodup_nil }

def members (z : ZSet α) : List α :=
  z.entries.map Prod.fst

def scores (z : ZSet α) : List ℤ :=
  z.entries.map Prod.snd

def zcard (z : ZSet α) : ℕ :=
  z.entries.length

/-- `ZREMRANGEBYSCORE`: both ends are inclusive. -/
def zremrangebyscore (z : ZSet α) (min max : ℤ) : ZSet α :=
  { entries := z.entries.filter fun e => !decide (min ≤ e.2 ∧ e.2 ≤ max)
    nodup := z.nodup.sublist (List.filter_sublist.map Prod.fst) }

/-- `ZADD`: a member that is already there only gets the new score. -/
def zadd (z : ZSet α) (score : ℤ) (member : α) : ZSet α :=
  { entries := (member, score) :: z.entries.filter fun e => decide (e.1 ≠ member)
    nodup := by
      rw [List.map_cons, List.nodup_cons]
      refine ⟨?_, z.nodup.sublist (List.filter_sublist.map Prod.fst)⟩
      intro h
      rcases List.mem_map.1 h with ⟨e, he, heq⟩
      have : e.1 ≠ member := by simpa using (List.mem_filter.1 he).2
      exact this heq }

omit [DecidableEq α] in
@[simp] theorem scores_empty : (empty : ZSet α).scores = [] := rfl

omit [DecidableEq α] in
theorem length_scores (z : ZSet α) : z.scores.length = z.zcard := by
  simp [scores, zcard]

omit [DecidableEq α] in
theorem scores_zremrangebyscore (z : ZSet α) (min max : ℤ) :
    (z.zremrangebyscore min max).scores =
      z.scores.filter fun a => !decide (min ≤ a ∧ a ≤ max) := by
  simp [scores, zremrangebyscore, List.filter_map, Function.comp_def]

/-- Adding a fresh member adds its score and keeps the others. -/
theorem scores_zadd_of_not_mem {z : ZSet α} {member : α} (h : member ∉ z.members) (score : ℤ) :
    (z.zadd score member).scores = score :: z.scores := by
  have hkeep : (z.entries.filter fun e => decide (e.1 ≠ member)) = z.entries := by
    refine List.filter_eq_self.2 ?_
    intro e he
    have : e.1 ≠ member := fun heq => h (heq ▸ List.mem_map_of_mem he)
    simpa using this
  simp only [scores, zadd, List.map_cons, hkeep]

end ZSet

/-! ## The script -/

/-- A bucket key: its sorted set and the instant, in ms, at which `PEXPIRE` lets it go. -/
structure Bucket (α : Type) where
  zset : ZSet α
  expireAt : Option ℤ

namespace Bucket

variable {α : Type}

def empty : Bucket α :=
  { zset := ZSet.empty, expireAt := none }

/-- The bucket as a command at `clock` finds it: an expired key is gone. -/
def live (b : Bucket α) (clock : ℤ) : Bucket α :=
  match b.expireAt with
  | some t => if t < clock then empty else b
  | none => b

end Bucket

variable {α : Type} [DecidableEq α]

/-- The sorted set the script counts: what `ZREMRANGEBYSCORE key 0 (now - window)` leaves. -/
def pruned (b : Bucket α) (window now : ℤ) : ZSet α :=
  (b.live now).zset.zremrangebyscore 0 (now - window)

/-- The script: the bucket it leaves, and its reply `{allowed, remaining, reset_ts_ms}`. -/
def slidingWindowScript (b : Bucket α) (window limit now : ℤ) (member : α) :
    Bucket α × ℤ × ℤ × ℤ :=
  let count : ℤ := (pruned b window now).zcard
  if count < limit then
    ({ zset := (pruned b window now).zadd now member, expireAt := some (now + window) },
      1, limit - count - 1, now + window)
  else
    ({ zset := pruned b window now, expireAt := (b.live now).expireAt }, 0, 0, now + window)

/-- The two outcomes of the script. -/
theorem script_of_lt {b : Bucket α} {w now : ℤ} {L : ℕ} {member : α}
    (h : (pruned b w now).zcard < L) :
    slidingWindowScript b w L now member =
      (({ zset := (pruned b w now).zadd now member, expireAt := some (now + w) } : Bucket α),
        (1 : ℤ), (L : ℤ) - (pruned b w now).zcard - 1, now + w) := by
  simp [slidingWindowScript, h]

theorem script_of_not_lt {b : Bucket α} {w now : ℤ} {L : ℕ} {member : α}
    (h : ¬ (pruned b w now).zcard < L) :
    slidingWindowScript b w L now member =
      (({ zset := pruned b w now, expireAt := (b.live now).expireAt } : Bucket α),
        (0 : ℤ), (0 : ℤ), now + w) := by
  simp [slidingWindowScript, h]

/-! ## `Check` -/

/-- `ratelimit.Key`. -/
structure Key where
  keyID : String
  requestsPerMinute : UInt32

/-- `ratelimit.Result`; `resetAt` in ms. -/
structure Result where
  allowed : Bool
  limit : UInt32
  remaining : UInt32
  resetAt : ℤ

/-- What becomes of the round trip of one `Eval`. -/
inductive Trip
  | answered
  | lostReply
  | notRun
  deriving DecidableEq, Repr

/-- One call of `Check`: the instant `time.Now()` gives, and the fate of its round trip.  The script
is run once for each call at most: a client that repeats a script whose reply is lost would run it
again with the old instant. -/
structure Call where
  unixNano : ℕ
  trip : Trip
  deriving DecidableEq, Repr

namespace Call

def unixMilli (c : Call) : ℤ :=
  (c.unixNano / 1000000 : ℕ)

/-- `ARGV[4]`: `fmt.Sprintf("%d", now.UnixNano())`. -/
def member (c : Call) : String :=
  toString c.unixNano

end Call

/-- The buckets in Redis, by key name. -/
abbrev Store : Type :=
  String → Bucket String

def windowMs : ℤ := 60000

/-- `rl:` and the key id. -/
def bucketKey (k : Key) : String :=
  "rl:" ++ k.keyID

/-- The script on the bucket of `k`, at the instant of the call. -/
def evalScript (st : Store) (k : Key) (c : Call) : Bucket String × ℤ × ℤ × ℤ :=
  slidingWindowScript (st (bucketKey k)) windowMs k.requestsPerMinute.toNat c.unixMilli c.member

def setBucket (st : Store) (key : String) (b : Bucket String) : Store :=
  fun other => if other = key then b else st other

/-- `redisLimiter.Check`; `none` is the error of a failed `Eval`. -/
def check (st : Store) (k : Key) (c : Call) : Store × Option Result :=
  if k.requestsPerMinute = 0 then
    (st, some { allowed := true, limit := 0, remaining := 0, resetAt := c.unixMilli + 60000 })
  else
    match c.trip with
    | .notRun => (st, none)
    | .lostReply => (setBucket st (bucketKey k) (evalScript st k c).1, none)
    | .answered =>
        let (b, allowed, remaining, resetMs) := evalScript st k c
        (setBucket st (bucketKey k) b,
          some
            { allowed := decide (allowed = 1)
              limit := k.requestsPerMinute
              remaining := UInt32.ofInt remaining
              resetAt := resetMs })

/-- The calls in the order in which Redis serves them, each with its result. -/
def run (k : Key) : Store → List Call → List (Call × Option Result)
  | _, [] => []
  | st, c :: cs => (c, (check st k c).2) :: run k (check st k c).1 cs

def isAllowed (r : Option Result) : Bool :=
  match r with
  | some res => res.allowed
  | none => false

/-- The instants of the calls that `Check` allowed, in order. -/
def allowedInstants (k : Key) (st : Store) (cs : List Call) : List ℤ :=
  ((run k st cs).filter fun p => isAllowed p.2).map fun p => p.1.unixMilli

/-- Redis before the first call for any key. -/
def emptyStore : Store :=
  fun _ => Bucket.empty

/-- Every window `(t - 60000, t]` holds at most `RequestsPerMinute` allowed calls. -/
def WindowBound (k : Key) (cs : List Call) : Prop :=
  ∀ t : ℤ, (inWindow windowMs t (allowedInstants k emptyStore cs)).length ≤
    k.requestsPerMinute.toNat

/-! ## The sorted set tracks the log of admitted calls -/

/-- `b` is what the script keeps of `log`: at any later instant, the pruned set holds exactly the
scores of the entries that still count. -/
structure Tracks (L : ℕ) (w : ℤ) (b : Bucket α) (log : List ℤ) (last : ℤ) : Prop where
  disciplined : Disciplined L w log
  le_last : ∀ a ∈ log, a ≤ last
  nonneg : ∀ a ∈ log, 0 ≤ a
  scores : ∀ now, last ≤ now → (pruned b w now).scores.Perm (since w now log)

omit [DecidableEq α] in
theorem tracks_empty (L : ℕ) (w last : ℤ) : Tracks L w (Bucket.empty : Bucket α) [] last where
  disciplined := .nil
  le_last := by simp
  nonneg := by simp
  scores := by
    intro now _
    simp [pruned, Bucket.live, Bucket.empty, ZSet.scores, ZSet.zremrangebyscore, ZSet.empty, since]

/-- The call brings a member that no element of the pruned set has, or the set is full anyway. -/
def Fresh (L : ℕ) (w now : ℤ) (b : Bucket α) (member : α) : Prop :=
  member ∉ (pruned b w now).members ∨ L ≤ (pruned b w now).zcard

omit [DecidableEq α] in
/-- Pruning again at a later instant is pruning once, at the later instant. -/
theorem scores_pruned_of_le {z : ZSet α} {w now now' : ℤ} (h : now ≤ now') :
    ((z.zremrangebyscore 0 (now - w)).zremrangebyscore 0 (now' - w)).scores =
      (z.zremrangebyscore 0 (now' - w)).scores := by
  simp only [ZSet.scores_zremrangebyscore, List.filter_filter]
  refine List.filter_congr ?_
  intro a _
  by_cases ha : 0 ≤ a ∧ a ≤ now' - w
  · simp [ha]
  · have : ¬ (0 ≤ a ∧ a ≤ now - w) := fun hc => ha ⟨hc.1, by omega⟩
    simp [ha, this]

/-- On nonnegative scores, `ZREMRANGEBYSCORE 0 (now - w)` leaves the entries that still count. -/
theorem filter_not_range_eq_since {w now : ℤ} {log : List ℤ} (h : ∀ a ∈ log, 0 ≤ a) :
    (log.filter fun a => !decide (0 ≤ a ∧ a ≤ now - w)) = since w now log := by
  refine List.filter_congr ?_
  intro a ha
  have := h a ha
  by_cases hlt : now - w < a
  · simp [hlt, this]
  · simp [hlt, this, not_lt.1 hlt]

namespace Tracks

variable {L : ℕ} {w now last : ℤ} {b : Bucket α} {log : List ℤ} {member : α}

omit [DecidableEq α] in
theorem mono (h : Tracks L w b log last) (hlast : last ≤ now) : Tracks L w b log now :=
  { disciplined := h.disciplined
    le_last := fun a ha => (h.le_last a ha).trans hlast
    nonneg := h.nonneg
    scores := fun later hlater => h.scores later (hlast.trans hlater) }

omit [DecidableEq α] in
/-- The count the script compares with the limit is the number of admitted calls in its window. -/
theorem zcard_eq (h : Tracks L w b log last) (hnow : last ≤ now) :
    (pruned b w now).zcard = (inWindow w now log).length := by
  have hle : ∀ a ∈ log, a ≤ now := fun a ha => (h.le_last a ha).trans hnow
  rw [inWindow_eq_since hle, ← ZSet.length_scores]
  exact (h.scores now hnow).length_eq

/-- The set after an admitted call, seen at any later instant. -/
theorem scores_after_zadd (h : Tracks L w b log last) (hlast : last ≤ now) (h0 : 0 ≤ now)
    (hfresh : member ∉ (pruned b w now).members) {later : ℤ} (hlater : now ≤ later) :
    (pruned { zset := (pruned b w now).zadd now member, expireAt := some (now + w) } w
      later).scores.Perm (since w later (now :: log)) := by
  by_cases hexp : now + w < later
  · -- The key has expired; so has everything in the log.
    have hnil : since w later (now :: log) = [] := by
      refine since_eq_nil ?_
      intro a ha
      rcases List.mem_cons.1 ha with rfl | ha
      · omega
      · have := h.le_last a ha
        omega
    rw [hnil]
    simp [pruned, Bucket.live, hexp, Bucket.empty, ZSet.scores, ZSet.zremrangebyscore, ZSet.empty]
  -- The key is alive, so the set is the old one with `now`, pruned once more.
  · have hlive : (Bucket.live
        { zset := (pruned b w now).zadd now member, expireAt := some (now + w) } later).zset =
          (pruned b w now).zadd now member := by
      simp [Bucket.live, hexp]
    have hscores : (pruned b w now).scores.Perm (since w now log) := h.scores now hlast
    have hnonneg : ∀ a ∈ now :: since w now log, 0 ≤ a := by
      intro a ha
      rcases List.mem_cons.1 ha with rfl | ha
      · exact h0
      · exact h.nonneg a (List.mem_of_mem_filter ha)
    have hsince : since w later (now :: since w now log) = since w later (now :: log) := by
      rw [since_cons, since_cons, since_since hlater]
    calc
      (pruned { zset := (pruned b w now).zadd now member, expireAt := some (now + w) } w
          later).scores
          = ((now :: (pruned b w now).scores).filter
              fun a => !decide (0 ≤ a ∧ a ≤ later - w)) := by
            rw [pruned, hlive, ZSet.scores_zremrangebyscore, ZSet.scores_zadd_of_not_mem hfresh]
      _ |>.Perm ((now :: since w now log).filter fun a => !decide (0 ≤ a ∧ a ≤ later - w)) :=
            (hscores.cons now).filter _
      _ = since w later (now :: log) := by
            rw [filter_not_range_eq_since hnonneg, hsince]

omit [DecidableEq α] in
/-- The set after a rejected call: the script only prunes. -/
theorem scores_after_reject (h : Tracks L w b log last) (hlast : last ≤ now)
    (hlive : b.live now = b) {later : ℤ} (hlater : now ≤ later) :
    (pruned { zset := pruned b w now, expireAt := (b.live now).expireAt } w later).scores.Perm
      (since w later log) := by
  have hsame :
      (pruned { zset := pruned b w now, expireAt := (b.live now).expireAt } w later).scores =
        (pruned b w later).scores := by
    have hz : pruned b w now = b.zset.zremrangebyscore 0 (now - w) := by
      simp [pruned, hlive]
    rw [hlive, hz]
    cases hexp : b.expireAt with
    | none =>
        simp only [pruned, Bucket.live, hexp]
        exact scores_pruned_of_le hlater
    | some t =>
        -- An expired key is an empty set, whether it was pruned before or not.
        by_cases ht : t < later
        · simp [pruned, Bucket.live, hexp, ht]
        · simp only [pruned, Bucket.live, hexp, ht, if_false]
          exact scores_pruned_of_le hlater
  rw [hsame]
  exact h.scores later (hlast.trans hlater)

omit [DecidableEq α] in
/-- A set that reaches the limit has not expired. -/
theorem live_eq_of_le_zcard (h : 0 < (pruned b w now).zcard) : b.live now = b := by
  unfold Bucket.live
  cases hexp : b.expireAt with
  | none =>
      rfl
  | some t =>
      by_cases ht : t < now
      · simp [pruned, Bucket.live, hexp, ht, Bucket.empty, ZSet.empty, ZSet.zcard,
          ZSet.zremrangebyscore] at h
      · simp [ht]

/-- One run of the script: it admits exactly when fewer than `L` admitted calls lie in the window
that ends now, and with a fresh member the set goes on tracking the log. -/
theorem script (h : Tracks L w b log last) (hL : 0 < L) (hlast : last ≤ now) (h0 : 0 ≤ now)
    (hfresh : Fresh L w now b member) :
    if (slidingWindowScript b w L now member).2.1 = 1 then
      Tracks L w (slidingWindowScript b w L now member).1 (now :: log) now
    else
      Tracks L w (slidingWindowScript b w L now member).1 log now := by
  have hcard := h.zcard_eq hlast
  have hle : ∀ a ∈ log, a ≤ now := fun a ha => (h.le_last a ha).trans hlast
  by_cases hlt : (pruned b w now).zcard < L
  · -- Admitted.
    have hmem : member ∉ (pruned b w now).members := by
      rcases hfresh with hmem | hfull
      · exact hmem
      · omega
    have htracks : Tracks L w
        { zset := (pruned b w now).zadd now member, expireAt := some (now + w) } (now :: log) now :=
      { disciplined := .push hle (hcard ▸ hlt) h.disciplined
        le_last := by simpa using hle
        nonneg := by simpa [h0] using h.nonneg
        scores := fun later hlater => h.scores_after_zadd hlast h0 hmem hlater }
    simpa [script_of_lt hlt] using htracks
  · -- Rejected: the set is full, so it is alive.
    have hlive : b.live now = b := live_eq_of_le_zcard (w := w) (by omega)
    have htracks :
        Tracks L w { zset := pruned b w now, expireAt := (b.live now).expireAt } log now :=
      { disciplined := h.disciplined
        le_last := hle
        nonneg := h.nonneg
        scores := fun later hlater => h.scores_after_reject hlast hlive hlater }
    simpa [script_of_not_lt hlt] using htracks

end Tracks

/-! ## Runs of `Check` -/

/-- Every call of the run brings a fresh member, or meets a set that is full. -/
def FreshRun (k : Key) : Store → List Call → Prop
  | _, [] => True
  | st, c :: cs =>
      (c.trip ≠ .notRun →
        Fresh k.requestsPerMinute.toNat windowMs c.unixMilli (st (bucketKey k)) c.member) ∧
      FreshRun k (check st k c).1 cs

/-- The instants never decrease. -/
def NonDecreasing (cs : List Call) : Prop :=
  cs.Pairwise fun c d => c.unixNano ≤ d.unixNano

instance (cs : List Call) : Decidable (NonDecreasing cs) :=
  inferInstanceAs (Decidable (cs.Pairwise fun c d => c.unixNano ≤ d.unixNano))

theorem unixMilli_le {c d : Call} (h : c.unixNano ≤ d.unixNano) : c.unixMilli ≤ d.unixMilli := by
  unfold Call.unixMilli
  exact_mod_cast Nat.div_le_div_right h

theorem unixMilli_nonneg (c : Call) : 0 ≤ c.unixMilli :=
  Int.natCast_nonneg _

@[simp] theorem setBucket_same (st : Store) (key : String) (b : Bucket String) :
    setBucket st key b key = b := by
  simp [setBucket]

/-- `Tracks.script` at the bucket of `k`. -/
theorem tracks_evalScript {k : Key} (hL : 0 < k.requestsPerMinute) {st : Store} {log : List ℤ}
    {last : ℤ} {c : Call}
    (h : Tracks k.requestsPerMinute.toNat windowMs (st (bucketKey k)) log last)
    (hlast : last ≤ c.unixMilli)
    (hfresh : Fresh k.requestsPerMinute.toNat windowMs c.unixMilli (st (bucketKey k)) c.member) :
    if (evalScript st k c).2.1 = 1 then
      Tracks k.requestsPerMinute.toNat windowMs (evalScript st k c).1 (c.unixMilli :: log)
        c.unixMilli
    else
      Tracks k.requestsPerMinute.toNat windowMs (evalScript st k c).1 log c.unixMilli :=
  h.script (by simpa [UInt32.lt_iff_toNat_lt] using hL) hlast (unixMilli_nonneg c) hfresh

/-- One call of `Check` under a policy: the log grows by the calls the script admitted, and these
are all the calls that `Check` allowed. -/
theorem tracks_check {k : Key} (hL : 0 < k.requestsPerMinute) {st : Store} {log : List ℤ} {last : ℤ}
    {c : Call}
    (h : Tracks k.requestsPerMinute.toNat windowMs (st (bucketKey k)) log last)
    (hlast : last ≤ c.unixMilli)
    (hfresh : c.trip ≠ .notRun →
      Fresh k.requestsPerMinute.toNat windowMs c.unixMilli (st (bucketKey k)) c.member) :
    ∃ log', Tracks k.requestsPerMinute.toNat windowMs ((check st k c).1 (bucketKey k)) log'
        c.unixMilli ∧
      (log' = c.unixMilli :: log ∨ log' = log ∧ isAllowed (check st k c).2 = false) := by
  have hne : k.requestsPerMinute ≠ 0 := by
    intro h0
    simp [h0] at hL
  cases htrip : c.trip with
  | notRun =>
      -- The script has not run, so the bucket is as it was.
      refine ⟨log, ?_, .inr ⟨rfl, ?_⟩⟩
      · have hst : (check st k c).1 = st := by
          simp [check, hne, htrip]
        rw [hst]
        exact h.mono hlast
      · simp [check, hne, htrip, isAllowed]
  | lostReply =>
      -- The script has run, whatever the caller hears of it.
      have hscript := tracks_evalScript hL h hlast (hfresh (by simp [htrip]))
      by_cases hone : (evalScript st k c).2.1 = 1
      · refine ⟨c.unixMilli :: log, ?_, .inl rfl⟩
        rw [if_pos hone] at hscript
        simpa [check, hne, htrip] using hscript
      · refine ⟨log, ?_, .inr ⟨rfl, by simp [check, hne, htrip, isAllowed]⟩⟩
        rw [if_neg hone] at hscript
        simpa [check, hne, htrip] using hscript
  | answered =>
      -- As before, and now the caller's answer is the script's.
      have hscript := tracks_evalScript hL h hlast (hfresh (by simp [htrip]))
      by_cases hone : (evalScript st k c).2.1 = 1
      · refine ⟨c.unixMilli :: log, ?_, .inl rfl⟩
        rw [if_pos hone] at hscript
        simpa [check, hne, htrip] using hscript
      · refine ⟨log, ?_, .inr ⟨rfl, by simp [check, hne, htrip, isAllowed, hone]⟩⟩
        rw [if_neg hone] at hscript
        simpa [check, hne, htrip] using hscript

/-- A run of `Check` from a tracked bucket: the allowed calls are a part of the log at its end. -/
theorem tracks_run {k : Key} (hL : 0 < k.requestsPerMinute) {st : Store} {log : List ℤ} {last : ℤ}
    {cs : List Call}
    (h : Tracks k.requestsPerMinute.toNat windowMs (st (bucketKey k)) log last)
    (hmono : NonDecreasing cs) (hlast : ∀ c ∈ cs, last ≤ c.unixMilli) (hfresh : FreshRun k st cs) :
    ∃ log', Disciplined k.requestsPerMinute.toNat windowMs log' ∧
      ((allowedInstants k st cs).reverse ++ log).Sublist log' := by
  induction cs generalizing st log last with
  | nil =>
      exact ⟨log, h.disciplined, by simp [allowedInstants, run]⟩
  | cons c cs ih =>
      rcases tracks_check hL h (hlast c (by simp)) hfresh.1 with ⟨log₁, htracks, hlog⟩
      have hpair := List.pairwise_cons.1 hmono
      have hlast' : ∀ d ∈ cs, c.unixMilli ≤ d.unixMilli :=
        fun d hd => unixMilli_le (hpair.1 d hd)
      rcases ih htracks hpair.2 hlast' hfresh.2 with ⟨log', hdisc, hsub⟩
      refine ⟨log', hdisc, List.Sublist.trans ?_ hsub⟩
      have hcons : allowedInstants k st (c :: cs) =
          if isAllowed (check st k c).2 then
            c.unixMilli :: allowedInstants k (check st k c).1 cs
          else allowedInstants k (check st k c).1 cs := by
        simp only [allowedInstants, run, List.filter_cons]
        split <;> simp
      rw [hcons]
      rcases hlog with rfl | ⟨rfl, hno⟩
      · split
        · simp
        · exact List.Sublist.append_left (List.sublist_cons_self _ _) _
      · simp [hno]

/-- Under a policy, in a run of fresh members every window holds at most the limit. -/
theorem windowBound_of_freshRun {k : Key} {cs : List Call} (hL : 0 < k.requestsPerMinute)
    (hmono : NonDecreasing cs) (hfresh : FreshRun k emptyStore cs) : WindowBound k cs := by
  have hlast : ∀ c ∈ cs, (0 : ℤ) ≤ c.unixMilli := fun c _ => unixMilli_nonneg c
  rcases tracks_run hL (tracks_empty _ _ 0) hmono hlast hfresh with ⟨log, hdisc, hsub⟩
  intro t
  rw [List.append_nil] at hsub
  have hrev : (inWindow windowMs t (allowedInstants k emptyStore cs)).length =
      (inWindow windowMs t (allowedInstants k emptyStore cs).reverse).length := by
    simp [inWindow, List.filter_reverse]
  calc
    (inWindow windowMs t (allowedInstants k emptyStore cs)).length
        = (inWindow windowMs t (allowedInstants k emptyStore cs).reverse).length := hrev
    _ ≤ (inWindow windowMs t log).length := (hsub.filter _).length_le
    _ ≤ k.requestsPerMinute.toNat := hdisc.length_inWindow_le t

/-- Three calls a second apart against a limit of two. -/
theorem windowBound_of_freshRun_three :
    WindowBound { keyID := "k", requestsPerMinute := 2 }
      [{ unixNano := 1000000000, trip := .answered }, { unixNano := 2000000000, trip := .answered },
        { unixNano := 3000000000, trip := .answered }] :=
  windowBound_of_freshRun (by decide) (by decide) (by
    refine ⟨fun _ => .inl (by decide), fun _ => .inl (by decide), fun _ => .inr (by decide), ?_⟩
    trivial)

/-- Two pods that read the same nanosecond write the same member, so that the set holds one element
for two allowed calls, and a third call passes under a limit of two. -/
theorem same_instant_exceeds_limit :
    ¬ ∀ (k : Key) (cs : List Call), 0 < k.requestsPerMinute → NonDecreasing cs →
      WindowBound k cs := by
  intro h
  have hbound := h { keyID := "k", requestsPerMinute := 2 }
    (List.replicate 3 { unixNano := 1000000000, trip := .answered }) (by decide) (by decide) 1000
  revert hbound
  decide

end RateLimit
end Gateway
end OpenRouter
