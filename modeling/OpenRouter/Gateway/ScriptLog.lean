import OpenRouter.Gateway.RateLimit

/-!
# ScriptLog — the sliding-window script as a log

Under its own contract the script behaves as a plain log of the instants that it admitted, although
it forgets entries, one by one and with the whole key.  `Simulates` holds of the bucket and the log
after every call, and `behavesAsLog` is what a caller sees of it.
-/

namespace OpenRouter
namespace Gateway
namespace RateLimit

open Base

/-! ## Runs of the script -/

/-- One call: `ARGV[3]` in ms and `ARGV[4]`. -/
structure ScriptCall (α : Type) where
  now : ℕ
  member : α

/-- `{allowed, remaining, reset_ts_ms}`. -/
abbrev Reply : Type :=
  ℤ × ℤ × ℤ

variable {α : Type} [DecidableEq α]

/-- The bucket behind a run of calls. -/
def bucketAfter (w : ℤ) (L : ℕ) (b : Bucket α) (calls : List (ScriptCall α)) : Bucket α :=
  calls.foldl (fun b c => (slidingWindowScript b w L c.now c.member).1) b

def replies (w : ℤ) (L : ℕ) : Bucket α → List (ScriptCall α) → List Reply
  | _, [] => []
  | b, c :: calls =>
      (slidingWindowScript b w L c.now c.member).2 ::
        replies w L (slidingWindowScript b w L c.now c.member).1 calls

/-- The reply to a call behind a run that started without the key. -/
def reply (w : ℤ) (L : ℕ) (before : List (ScriptCall α)) (c : ScriptCall α) : Reply :=
  (slidingWindowScript (bucketAfter w L Bucket.empty before) w L c.now c.member).2

def times (calls : List (ScriptCall α)) : List ℤ :=
  calls.map fun c => (c.now : ℤ)

/-- What the script asks of its callers. -/
structure Contract (w : ℤ) (L : ℕ) (calls : List (ScriptCall α)) : Prop where
  window : 0 < w
  limit : 0 < L
  fresh : (calls.map ScriptCall.member).Nodup
  nonDecreasing : calls.Pairwise fun c d => c.now ≤ d.now

/-! ## The plain log -/

/-- A call at `t` is admitted when fewer than `L` were in `(t - w, t]`. -/
def logReply (w : ℤ) (L : ℕ) (log : List ℤ) (t : ℤ) : Reply :=
  if (inWindow w t log).length < L then (1, L - (inWindow w t log).length - 1, t + w)
  else (0, 0, t + w)

def logAdd (w : ℤ) (L : ℕ) (log : List ℤ) (t : ℤ) : List ℤ :=
  if (inWindow w t log).length < L then t :: log else log

def logAfter (w : ℤ) (L : ℕ) (log : List ℤ) (ts : List ℤ) : List ℤ :=
  ts.foldl (logAdd w L) log

def logReplies (w : ℤ) (L : ℕ) : List ℤ → List ℤ → List Reply
  | _, [] => []
  | log, t :: ts => logReply w L log t :: logReplies w L (logAdd w L log t) ts

/-! ## The simulation -/

/-- What the bucket has of the log at an instant, and of the members of the calls so far. -/
structure Simulates (L : ℕ) (w : ℤ) (b : Bucket α) (log : List ℤ) (last : ℤ) (past : List α) :
    Prop where
  tracks : Tracks L w b log last
  members : ∀ m ∈ b.zset.members, m ∈ past
  /-- The key outlives the windows of its entries. -/
  expiry : ∀ e, b.expireAt = some e → ∀ a ∈ b.zset.scores, a + w ≤ e

omit [DecidableEq α] in
theorem simulates_empty (L : ℕ) (w last : ℤ) :
    Simulates L w (Bucket.empty : Bucket α) [] last [] where
  tracks := tracks_empty L w last
  members := by simp [Bucket.empty, ZSet.empty, ZSet.members]
  expiry := by simp [Bucket.empty]

omit [DecidableEq α] in
/-- Pruning takes entries away. -/
theorem entries_pruned_subset (b : Bucket α) (w now : ℤ) :
    (pruned b w now).entries ⊆ b.zset.entries := by
  intro e he
  have hlive := List.mem_of_mem_filter he
  unfold Bucket.live at hlive
  split at hlive
  · split at hlive
    · simp [Bucket.empty, ZSet.empty] at hlive
    · exact hlive
  · exact hlive

omit [DecidableEq α] in
/-- A key that has an expiry when it is found had it before. -/
theorem expireAt_of_live {b : Bucket α} {now e : ℤ} (h : (b.live now).expireAt = some e) :
    b.expireAt = some e := by
  unfold Bucket.live at h
  split at h
  · split at h
    · cases h
    · exact h
  · exact h

namespace Simulates

variable {L : ℕ} {w last : ℤ} {b : Bucket α} {log : List ℤ} {past : List α} {c : ScriptCall α}

omit [DecidableEq α] in
theorem mono {now : ℤ} (h : Simulates L w b log last past) (hlast : last ≤ now) :
    Simulates L w b log now past :=
  { tracks := h.tracks.mono hlast
    members := h.members
    expiry := h.expiry }

/-- The script replies as the log does. -/
theorem reply_eq (h : Simulates L w b log last past) (hlast : last ≤ c.now) :
    (slidingWindowScript b w L c.now c.member).2 = logReply w L log c.now := by
  have hcard := h.tracks.zcard_eq hlast
  unfold logReply
  rw [← hcard]
  by_cases hlt : (pruned b w c.now).zcard < L
  · rw [script_of_lt hlt, if_pos hlt]
  · rw [script_of_not_lt hlt, if_neg hlt]

/-- The script and the log make the same step. -/
theorem step (h : Simulates L w b log last past) (hL : 0 < L) (hlast : last ≤ c.now)
    (hfresh : c.member ∉ past) :
    Simulates L w (slidingWindowScript b w L c.now c.member).1 (logAdd w L log c.now) c.now
      (c.member :: past) := by
  have hcard := h.tracks.zcard_eq hlast
  have hsubset := entries_pruned_subset b w c.now
  have hpast : ∀ e ∈ (pruned b w c.now).entries, e.1 ∈ past :=
    fun e he => h.members e.1 (List.mem_map_of_mem (hsubset he))
  -- A fresh member is added, where an old one would only move.
  have hmember : c.member ∉ (pruned b w c.now).members := by
    intro hmem
    rcases List.mem_map.1 hmem with ⟨e, he, heq⟩
    exact hfresh (heq ▸ hpast e he)
  have htracks := h.tracks.script hL hlast (Int.natCast_nonneg c.now) (.inl hmember)
  unfold logAdd
  rw [← hcard]
  by_cases hlt : (pruned b w c.now).zcard < L
  · rw [script_of_lt hlt] at htracks ⊢
    rw [if_pos hlt]
    refine { tracks := by simpa using htracks, members := ?_, expiry := ?_ }
    · intro m hm
      rcases List.mem_cons.1 hm with rfl | hm
      · exact List.mem_cons_self
      · rcases List.mem_map.1 hm with ⟨e, he, rfl⟩
        exact List.mem_cons_of_mem _ (hpast e (List.mem_of_mem_filter he))
    · intro e he a ha
      cases he
      rw [ZSet.scores_zadd_of_not_mem hmember] at ha
      rcases List.mem_cons.1 ha with rfl | ha
      · exact le_rfl
      -- The key expires a window after the call, behind all that it holds.
      · have hlog := List.mem_of_mem_filter ((h.tracks.scores c.now hlast).subset ha)
        have hle := h.tracks.le_last a hlog
        omega
  · rw [script_of_not_lt hlt] at htracks ⊢
    rw [if_neg hlt]
    refine { tracks := by simpa using htracks, members := ?_, expiry := ?_ }
    · intro m hm
      rcases List.mem_map.1 hm with ⟨e, he, rfl⟩
      exact List.mem_cons_of_mem _ (hpast e he)
    · intro e he a ha
      -- A rejection leaves the expiry as it is.
      exact h.expiry e (expireAt_of_live he) a (List.map_subset _ hsubset ha)

end Simulates

/-! ## What a caller sees -/

/-- The script shows no difference to the plain log. -/
structure BehavesAsLog (w : ℤ) (L : ℕ) (calls : List (ScriptCall α)) : Prop where
  replies_eq : replies w L Bucket.empty calls = logReplies w L [] (times calls)
  remaining : ∀ r ∈ replies w L Bucket.empty calls, r.1 = 1 → 0 ≤ r.2.1
  /-- A rejected call changes no later decision. -/
  rejected : ∀ before c later, calls = before ++ c :: later → (reply w L before c).1 = 0 →
    replies w L (bucketAfter w L Bucket.empty (before ++ [c])) later =
      replies w L (bucketAfter w L Bucket.empty before) later
  /-- As long as an entry counts, the key is there. -/
  expiry : ∀ before later now, calls = before ++ later →
    ∀ a ∈ (bucketAfter w L Bucket.empty before).zset.scores, now - w < a →
      (bucketAfter w L Bucket.empty before).live now = bucketAfter w L Bucket.empty before
  /-- Who comes back at the reset time, with nothing admitted meanwhile, is admitted. -/
  retry : ∀ before c between d later, calls = before ++ c :: between ++ d :: later →
    (reply w L before c).1 = 0 →
    (∀ r ∈ replies w L (bucketAfter w L Bucket.empty (before ++ [c])) between, r.1 = 0) →
    (d.now : ℤ) = (reply w L before c).2.2 → (reply w L (before ++ c :: between) d).1 = 1

theorem bucketAfter_append (w : ℤ) (L : ℕ) (b : Bucket α) (calls later : List (ScriptCall α)) :
    bucketAfter w L b (calls ++ later) = bucketAfter w L (bucketAfter w L b calls) later :=
  List.foldl_append

theorem reset_logReply (w : ℤ) (L : ℕ) (log : List ℤ) (t : ℤ) :
    (logReply w L log t).2.2 = t + w := by
  unfold logReply
  split <;> rfl

theorem logAdd_of_rejected {w : ℤ} {L : ℕ} {log : List ℤ} {t : ℤ}
    (h : (logReply w L log t).1 = 0) : logAdd w L log t = log := by
  unfold logReply at h
  unfold logAdd
  split at h
  · cases h
  · rename_i hfull
    rw [if_neg hfull]

theorem logAfter_of_rejected {w : ℤ} {L : ℕ} {log : List ℤ} {ts : List ℤ}
    (h : ∀ r ∈ logReplies w L log ts, r.1 = 0) : logAfter w L log ts = log := by
  induction ts with
  | nil => rfl
  | cons t ts ih =>
      rw [logReplies, List.forall_mem_cons] at h
      have hsame := logAdd_of_rejected h.1
      rw [hsame] at h
      rw [logAfter, List.foldl_cons, hsame]
      exact ih h.2

theorem remaining_nonneg {w : ℤ} {L : ℕ} {log : List ℤ} {ts : List ℤ} :
    ∀ r ∈ logReplies w L log ts, r.1 = 1 → 0 ≤ r.2.1 := by
  induction ts generalizing log with
  | nil => simp [logReplies]
  | cons t ts ih =>
      rw [logReplies, List.forall_mem_cons]
      refine ⟨?_, ih⟩
      intro hone
      unfold logReply at hone ⊢
      split at hone
      · rename_i hlt
        rw [if_pos hlt]
        simp only
        omega
      · cases hone

/-- At the end of the window of the last call, nothing counts any more. -/
theorem admitted_at_reset {w : ℤ} {L : ℕ} {log : List ℤ} {t : ℤ} (hL : 0 < L)
    (h : ∀ a ∈ log, a ≤ t) : (logReply w L log (t + w)).1 = 1 := by
  have hnone : inWindow w (t + w) log = [] := by
    refine List.filter_eq_nil_iff.2 ?_
    intro a ha
    have hle := h a ha
    simp only [decide_eq_true_eq, not_and]
    omega
  rw [logReply, hnone, List.length_nil, if_pos hL]

/-- The calls may follow a run with these members that ended at `last`. -/
structure Follows (last : ℤ) (past : List α) (calls : List (ScriptCall α)) : Prop where
  fresh : (calls.map ScriptCall.member).Nodup
  new : ∀ c ∈ calls, c.member ∉ past
  nonDecreasing : calls.Pairwise fun c d => c.now ≤ d.now
  last_le : ∀ c ∈ calls, last ≤ c.now

variable {L : ℕ} {w last : ℤ} {b : Bucket α} {log : List ℤ} {past : List α} {c : ScriptCall α}
  {calls later : List (ScriptCall α)}

omit [DecidableEq α] in
theorem Contract.follows (h : Contract w L calls) : Follows 0 [] calls where
  fresh := h.fresh
  new := by simp
  nonDecreasing := h.nonDecreasing
  last_le := fun c _ => Int.natCast_nonneg c.now

omit [DecidableEq α] in
theorem Follows.behind (h : Follows last past (c :: calls)) :
    Follows c.now (c.member :: past) calls where
  fresh := (List.nodup_cons.1 h.fresh).2
  new := by
    intro d hd
    have hne : d.member ≠ c.member := by
      intro heq
      exact (List.nodup_cons.1 h.fresh).1 (heq ▸ List.mem_map_of_mem hd)
    simpa [hne] using h.new d (List.mem_cons_of_mem _ hd)
  nonDecreasing := (List.pairwise_cons.1 h.nonDecreasing).2
  last_le := by
    intro d hd
    exact_mod_cast (List.pairwise_cons.1 h.nonDecreasing).1 d hd

omit [DecidableEq α] in
/-- Calls may be left out. -/
theorem Follows.sublist (h : Follows last past calls) (hsub : later.Sublist calls) :
    Follows last past later where
  fresh := h.fresh.sublist (hsub.map _)
  new := fun d hd => h.new d (hsub.subset hd)
  nonDecreasing := h.nonDecreasing.sublist hsub
  last_le := fun d hd => h.last_le d (hsub.subset hd)

namespace Simulates

theorem step_follows (h : Simulates L w b log last past) (hL : 0 < L)
    (hcalls : Follows last past (c :: calls)) :
    Simulates L w (slidingWindowScript b w L c.now c.member).1 (logAdd w L log c.now) c.now
      (c.member :: past) :=
  h.step hL (hcalls.last_le c List.mem_cons_self) (hcalls.new c List.mem_cons_self)

/-- A run of calls keeps the bucket and the log together. -/
theorem run (h : Simulates L w b log last past) (hL : 0 < L)
    (hcalls : Follows last past (calls ++ later)) :
    ∃ last' past', Simulates L w (bucketAfter w L b calls) (logAfter w L log (times calls)) last'
      past' ∧ Follows last' past' later := by
  induction calls generalizing b log last past with
  | nil => exact ⟨last, past, h, hcalls⟩
  | cons c calls ih => exact ih (h.step_follows hL hcalls) hcalls.behind

theorem replies_eq (h : Simulates L w b log last past) (hL : 0 < L)
    (hcalls : Follows last past calls) :
    replies w L b calls = logReplies w L log (times calls) := by
  induction calls generalizing b log last past with
  | nil => rfl
  | cons c calls ih =>
      have hreply := h.reply_eq (hcalls.last_le c List.mem_cons_self)
      have hrest := ih (h.step_follows hL hcalls) hcalls.behind
      simp only [replies, times, List.map_cons, logReplies, hreply]
      rw [hrest]
      rfl

end Simulates

/-- Under its contract the script behaves as the log of the instants that it admitted. -/
theorem behavesAsLog (w : ℤ) (L : ℕ) (calls : List (ScriptCall α)) (h : Contract w L calls) :
    BehavesAsLog w L calls := by
  have hempty : Simulates L w (Bucket.empty : Bucket α) [] 0 [] := simulates_empty L w 0
  have hreplies := hempty.replies_eq h.limit h.follows
  constructor
  · exact hreplies
  · rw [hreplies]
    exact remaining_nonneg
  · intro before c later hcalls hrejected
    have hfollows := h.follows
    rw [hcalls] at hfollows
    rcases hempty.run h.limit hfollows with ⟨last, past, hsim, hnext⟩
    have hlast := hnext.last_le c List.mem_cons_self
    have hstep := hsim.step_follows h.limit hnext
    -- The log does not grow, so that it is the same with and without the call.
    rw [reply, hsim.reply_eq hlast] at hrejected
    rw [logAdd_of_rejected hrejected] at hstep
    have hwithout := hnext.sublist (List.sublist_cons_self c later)
    rw [bucketAfter_append, hsim.replies_eq h.limit hwithout]
    exact hstep.replies_eq h.limit hnext.behind
  · intro before later now hcalls a ha hcounts
    have hfollows := h.follows
    rw [hcalls] at hfollows
    rcases hempty.run h.limit hfollows with ⟨last, past, hsim, -⟩
    cases hexpiry : (bucketAfter w L Bucket.empty before).expireAt with
    | none => simp [Bucket.live, hexpiry]
    | some e =>
        have hle := hsim.expiry e hexpiry a ha
        simp only [Bucket.live, hexpiry]
        rw [if_neg (by omega)]
  · intro before c between d later hcalls hrejected hbetween hreset
    have hfollows := h.follows
    rw [hcalls, List.append_assoc] at hfollows
    rcases hempty.run h.limit hfollows with ⟨last, past, hsim, hnext⟩
    have hlast := hnext.last_le c List.mem_cons_self
    have hstep := hsim.step_follows h.limit hnext
    rw [reply, hsim.reply_eq hlast] at hrejected hreset
    rw [reset_logReply] at hreset
    rw [logAdd_of_rejected hrejected] at hstep
    -- Nothing is admitted in between, so that the log is still that of the rejection.
    rcases hstep.run h.limit hnext.behind with ⟨last', past', hback, hend⟩
    rw [bucketAfter_append] at hbetween
    have hsame : logAfter w L (logAfter w L [] (times before)) (times between) =
        logAfter w L [] (times before) := by
      refine logAfter_of_rejected ?_
      rw [← hstep.replies_eq h.limit (hnext.behind.sublist (List.sublist_append_left _ _))]
      exact hbetween
    rw [hsame] at hback
    rw [reply, bucketAfter_append]
    change (slidingWindowScript (bucketAfter w L _ between) w L d.now d.member).2.1 = 1
    rw [hback.reply_eq (hend.last_le d List.mem_cons_self), hreset]
    exact admitted_at_reset h.limit hstep.tracks.le_last

/-- Two admitted calls, one that is rejected, and its return a minute later. -/
def fourCalls : List (ScriptCall String) :=
  [{ now := 1000, member := "a" }, { now := 2000, member := "b" }, { now := 3000, member := "c" },
    { now := 63000, member := "d" }]

theorem behavesAsLog_fourCalls : BehavesAsLog 60000 2 fourCalls :=
  behavesAsLog 60000 2 fourCalls
    { window := by norm_num
      limit := by norm_num
      fresh := by decide
      nonDecreasing := by decide }

example : (replies 60000 2 Bucket.empty fourCalls).map Prod.fst = [1, 1, 0, 1] := by decide

end RateLimit
end Gateway
end OpenRouter
