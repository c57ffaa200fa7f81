import Mathlib.Algebra.Order.BigOperators.Group.Finset
import Mathlib.Data.Rat.Floor
import Mathlib.Tactic.Linarith
import OpenRouter.Base.Binary64
import OpenRouter.Base.Json
import OpenRouter.Base.Transition

/-!
# Login — the polling loop of the device-code flow

`runLogin` of `cli/src/api/login.ts` over `ApiClient.deviceCodePoll`, round by round: the deadline
is looked at, the timer runs, the poll is sent.  Times are milliseconds on one clock, which
`Date.now()` shows without fractions; the numbers of the server are doubles.

What a run comes to is said in terms of what its rounds meet (`reached_of_exec`).  `polling_iff`
reads off it when a login ends, that its polls keep their distance as long as the timer can run for
so long, and when none of them is late.
-/

namespace OpenRouter
namespace Cli
namespace Login

open Base

/-! ## `deviceCodePoll` -/

/-- What ends a login without a token. -/
inductive Thrown
  /-- The deadline has passed. -/
  | expired
  | accessDenied
  | expiredToken
  /-- `OAuth error: …`, with the field `error` of the answer, or else its status. -/
  | oauthError (error : Option Json) (statusCode : ℕ)
  /-- The request has failed, or its answer is not what it is read as. -/
  | unreadable

/-- An answer; its body is read as JSON where it can be. -/
structure HttpReply where
  statusCode : ℕ
  json : Option Json

inductive PollResult
  | token (accessToken : Json)
  | pending (slowDown : Bool)

/-- The field `error` of an answer that is none of 200. -/
def pollError (statusCode : ℕ) (error : Option Json) : Except Thrown PollResult :=
  match error with
  | some (.str code) =>
      if code = "authorization_pending" then .ok (.pending false)
      else if code = "slow_down" then .ok (.pending true)
      else if code = "access_denied" then .error .accessDenied
      else if code = "expired_token" then .error .expiredToken
      else .error (.oauthError error statusCode)
  | _ => .error (.oauthError error statusCode)

/-- `deviceCodePoll`, and the tests of `runLogin` on what it returns; no reply is a request that has
failed. -/
def deviceCodePoll (reply : Option HttpReply) : Except Thrown PollResult :=
  match reply with
  | none => .error .unreadable
  | some reply =>
      if reply.statusCode = 200 then
        match reply.json with
        | some (.obj ms) =>
            match lastMember ms "access_token" with
            | some accessToken => .ok (.token accessToken)
            | none =>
                match lastMember ms "slowDown" with
                | some (.bool slowDown) => .ok (.pending slowDown)
                | _ => .ok (.pending false)
        -- An array has neither property.
        | some (.arr _) => .ok (.pending false)
        | _ => .error .unreadable
      else
        match reply.json with
        | some (.obj ms) => pollError reply.statusCode (lastMember ms "error")
        -- Reading a property of `null` throws.
        | some .null => .error .unreadable
        | _ => pollError reply.statusCode none

/-! ## Rounds -/

/-- What a round meets: how late its timer fires, and the answer with the time until it is there. -/
structure Round where
  late : ℚ
  reply : Option HttpReply
  took : ℚ
  late_nonneg : 0 ≤ late
  took_nonneg : 0 ≤ took

inductive Outcome
  | loggedIn (accessToken : Json)
  | failed (e : Thrown)

structure Poll where
  sentAt : ℚ
  /-- It was answered with `slow_down`. -/
  slowDown : Bool

/-- The loop at its head. -/
structure Loop where
  now : ℚ
  interval : Double
  polls : List Poll
  outcome : Option Outcome

/-- For how long a timer runs: a delay above 31 bits or below one is one millisecond, and any other
one is truncated. -/
def timerDelay : Double → ℚ
  | .finite delay => if 2147483647 < delay ∨ delay < 1 then 1 else ⌊delay⌋
  | .infinity => 1

/-- What an answer changes: whether the interval grows, and how the login ends. -/
def answered (reply : Option HttpReply) : Bool × Option Outcome :=
  match deviceCodePoll reply with
  | .ok (.token accessToken) => (false, some (.loggedIn accessToken))
  | .ok (.pending slowDown) => (slowDown, none)
  | .error e => (false, some (.failed e))

/-- The loop before its first round. -/
def begin (start : ℚ) (interval : Double) : Loop where
  now := start
  interval := interval.map fun x => max 1 x * 1000
  polls := []
  outcome := none

/-- When the poll of a round is sent. -/
def sentAt (s : Loop) (r : Round) : ℚ :=
  s.now + timerDelay s.interval + r.late

/-- One round; there is none after the end. -/
def round (deadline : Double) (s : Loop) (r : Round) : Option Loop :=
  match s.outcome with
  | some _ => none
  | none =>
      if deadline.atLeast ⌊s.now⌋ then
        -- The deadline is not looked at again behind the wait.
        let answer := answered r.reply
        some
          { now := sentAt s r + r.took
            interval := if answer.1 then s.interval.map (· + 5000) else s.interval
            polls := s.polls ++ [{ sentAt := sentAt s r, slowDown := answer.1 }]
            outcome := answer.2 }
      else
        some { s with outcome := some (.failed .expired) }

/-- The deadline of a device code. -/
def deadline (start : ℚ) (expiresIn : Double) : Double :=
  (expiresIn.map (· * 1000)).map fun x => ⌊start⌋ + x

/-! ## What a round does -/

/-- Either the deadline has passed and nothing is sent, or one poll is. -/
theorem round_cases {deadline : Double} {s s' : Loop} {r : Round}
    (h : round deadline s r = some s') :
    s.outcome = none ∧
      (deadline.atLeast ⌊s.now⌋ = false ∧ s' = { s with outcome := some (.failed .expired) } ∨
        deadline.atLeast ⌊s.now⌋ = true ∧ ∃ outcome, s' =
          { now := sentAt s r + r.took
            interval := if (answered r.reply).1 then s.interval.map (· + 5000) else s.interval
            polls := s.polls ++ [{ sentAt := sentAt s r, slowDown := (answered r.reply).1 }]
            outcome := outcome }) := by
  unfold round at h
  split at h
  · cases h
  · rename_i hopen
    refine ⟨hopen, ?_⟩
    split at h
    · rename_i hintime
      exact .inr ⟨hintime, _, (Option.some.inj h).symm⟩
    · rename_i hlate
      exact .inl ⟨Bool.eq_false_of_not_eq_true hlate, (Option.some.inj h).symm⟩

theorem round_isSome (deadline : Double) {s : Loop} (h : s.outcome = none) (r : Round) :
    ∃ s', round deadline s r = some s' := by
  simp only [round, h]
  split <;> exact ⟨_, rfl⟩

theorem one_le_timerDelay (delay : Double) : 1 ≤ timerDelay delay := by
  cases delay with
  | infinity => exact le_rfl
  | finite x =>
      simp only [timerDelay]
      split
      · exact le_rfl
      · rename_i h
        have hdelay : 1 ≤ x := not_lt.1 fun hlt => h (.inr hlt)
        have hfloor : (1 : ℤ) ≤ ⌊x⌋ := Int.le_floor.2 (by exact_mod_cast hdelay)
        exact_mod_cast hfloor

/-! ## Where a run is -/

/-- The interval after so many `slow_down`s. -/
def intervalAfter (interval : Double) : ℕ → Double
  | 0 => interval.map fun x => max 1 x * 1000
  | k + 1 => (intervalAfter interval k).map (· + 5000)

section Runs

variable (start : ℚ) (interval : Double) (rounds : ℕ → Round)

/-- The number of `slow_down`s before a round. -/
def slowDowns : ℕ → ℕ
  | 0 => 0
  | j + 1 => slowDowns j + if (answered (rounds j).reply).1 then 1 else 0

/-- The wait of a round: the timer and its lateness. -/
def waitOf (j : ℕ) : ℚ :=
  timerDelay (intervalAfter interval (slowDowns rounds j)) + (rounds j).late

/-- When the wait of a round begins: the waits and the requests of the rounds before it. -/
def beginsAt (j : ℕ) : ℚ :=
  start + ∑ i ∈ Finset.range j, (waitOf interval rounds i + (rounds i).took)

/-- The poll of a round. -/
def pollOf (j : ℕ) : Poll where
  sentAt := beginsAt start interval rounds j + waitOf interval rounds j
  slowDown := (answered (rounds j).reply).1

/-- Where the loop is after `n` rounds: the first `m` have sent their polls, and only the last one
may have found the deadline passed. -/
structure Reached (deadline : Double) (n : ℕ) (s : Loop) : Prop where
  polls : ∃ m ≤ n, s.polls = (List.range m).map (pollOf start interval rounds) ∧
    (∀ j < m, deadline.atLeast ⌊beginsAt start interval rounds j⌋ = true) ∧
    ∀ j < n, m ≤ j → deadline.atLeast ⌊beginsAt start interval rounds j⌋ = false
  going : s.outcome = none → s.now = beginsAt start interval rounds n ∧
    s.interval = intervalAfter interval (slowDowns rounds n) ∧
    s.polls = (List.range n).map (pollOf start interval rounds) ∧
    ∀ j < n, deadline.atLeast ⌊beginsAt start interval rounds j⌋ = true

variable {start interval rounds} {deadline : Double}

theorem beginsAt_succ (j : ℕ) : beginsAt start interval rounds (j + 1) =
    beginsAt start interval rounds j + waitOf interval rounds j + (rounds j).took := by
  rw [beginsAt, beginsAt, Finset.sum_range_succ]
  ring

theorem reached_begin : Reached start interval rounds deadline 0 (begin start interval) where
  polls := ⟨0, le_rfl, rfl, by simp, by simp⟩
  going _ := ⟨by simp [begin, beginsAt], rfl, rfl, by simp⟩

/-- A round more. -/
theorem Reached.round {n : ℕ} {s s' : Loop} (h : Reached start interval rounds deadline n s)
    (hstep : Login.round deadline s (rounds n) = some s') :
    Reached start interval rounds deadline (n + 1) s' := by
  rcases round_cases hstep with ⟨hopen, hcases⟩
  rcases h.going hopen with ⟨hnow, hinterval, hpolls, hbefore⟩
  rcases hcases with ⟨hlate, rfl⟩ | ⟨hintime, outcome, rfl⟩
  · refine ⟨⟨n, Nat.le_succ n, hpolls, hbefore, ?_⟩, fun hnone => by cases hnone⟩
    intro j hj hn
    have hlast : j = n := by omega
    rw [hlast, ← hnow]
    exact hlate
  · have hsent : sentAt s (rounds n) =
        beginsAt start interval rounds n + waitOf interval rounds n := by
      rw [sentAt, hnow, hinterval, waitOf, add_assoc]
    have hpolls' : s.polls ++ [{ sentAt := sentAt s (rounds n)
                                 slowDown := (answered (rounds n).reply).1 }] =
        (List.range (n + 1)).map (pollOf start interval rounds) := by
      rw [List.range_succ, List.map_append, hpolls, hsent]
      rfl
    have hall : ∀ j < n + 1, deadline.atLeast ⌊beginsAt start interval rounds j⌋ = true := by
      intro j hj
      rcases Nat.lt_succ_iff_lt_or_eq.1 hj with hlt | rfl
      · exact hbefore j hlt
      · rw [← hnow]
        exact hintime
    refine ⟨⟨n + 1, le_rfl, hpolls', hall, fun j hj hle => by omega⟩, fun _ => ?_⟩
    refine ⟨?_, ?_, hpolls', hall⟩
    · rw [beginsAt_succ, ← hsent]
    · simp only [hinterval, slowDowns]
      split <;> rfl

theorem reached_of_exec {n : ℕ} {t : Loop}
    (h : exec (Login.round deadline) (begin start interval) ((List.range n).map rounds) = some t) :
    Reached start interval rounds deadline n t := by
  induction n generalizing t with
  | zero =>
      cases h
      exact reached_begin
  | succ n ih =>
      rw [List.range_succ, List.map_append] at h
      rcases exec_append.1 h with ⟨s, hs, hlast⟩
      rcases exec_cons.1 hlast with ⟨s', hstep, hnil⟩
      cases hnil
      exact (ih hs).round hstep

/-! ## The end of a login -/

theorem start_add_le_beginsAt (n : ℕ) : start + n ≤ beginsAt start interval rounds n := by
  induction n with
  | zero => simp [beginsAt]
  | succ n ih =>
      have hdelay := one_le_timerDelay (intervalAfter interval (slowDowns rounds n))
      have hlate := (rounds n).late_nonneg
      have htook := (rounds n).took_nonneg
      rw [beginsAt_succ, waitOf]
      push_cast
      linarith

/-- After so many rounds a login has ended, or goes on. -/
theorem exec_or_outcome (n : ℕ) :
    (∃ m t,
      exec (Login.round deadline) (begin start interval) ((List.range m).map rounds) = some t ∧
        t.outcome.isSome) ∨
      ∃ t, exec (Login.round deadline) (begin start interval) ((List.range n).map rounds) = some t ∧
        t.outcome = none := by
  induction n with
  | zero => exact .inr ⟨begin start interval, rfl, rfl⟩
  | succ n ih =>
      rcases ih with hended | ⟨t, ht, hopen⟩
      · exact .inl hended
      · rcases round_isSome deadline hopen (rounds n) with ⟨t', ht'⟩
        have hrun : exec (Login.round deadline) (begin start interval)
            ((List.range (n + 1)).map rounds) = some t' := by
          rw [List.range_succ, List.map_append]
          exact exec_append.2 ⟨t, ht, exec_cons.2 ⟨t', ht', rfl⟩⟩
        cases hend : t'.outcome with
        | some outcome => exact .inl ⟨n + 1, t', hrun, by rw [hend]; rfl⟩
        | none => exact .inr ⟨t', hrun, hend⟩

/-- With a deadline that is a number, a login ends whatever the server answers. -/
theorem exists_outcome {x : ℚ} (hdeadline : deadline = .finite x) :
    ∃ n t, exec (Login.round deadline) (begin start interval) ((List.range n).map rounds) = some t ∧
      t.outcome.isSome := by
  -- Behind these rounds the deadline has passed, unless the login has ended before.
  have hcases : _ ∨ ∃ t, exec (Login.round deadline) (begin start interval)
      ((List.range (⌈x - start⌉₊ + 2)).map rounds) = some t ∧ t.outcome = none := exec_or_outcome _
  rcases hcases with hended | ⟨t, ht, hopen⟩
  · exact hended
  · have hreached := ((reached_of_exec ht).going hopen).2.2.2 (⌈x - start⌉₊ + 1) (by omega)
    rw [hdeadline] at hreached
    have hintime := of_decide_eq_true hreached
    have hbegins : start + (⌈x - start⌉₊ + 1 : ℕ) ≤
        beginsAt start interval rounds (⌈x - start⌉₊ + 1) := start_add_le_beginsAt _
    have hceil := Nat.le_ceil (x - start)
    have hfloor := Int.lt_floor_add_one (beginsAt start interval rounds (⌈x - start⌉₊ + 1))
    push_cast at hbegins hfloor hintime
    linarith

end Runs

/-- A round on time whose poll is answered with this error at once. -/
def answeredWith (error : String) : Round where
  late := 0
  reply := some { statusCode := 400, json := some (.obj [("error", .str error)]) }
  took := 0
  late_nonneg := Rat.le_refl
  took_nonneg := Rat.le_refl

/-- Without a deadline, a login goes on as long as the server wants it to. -/
theorem outcome_of_pending {start : ℚ} {interval : Double} {n : ℕ} {t : Loop}
    (h : exec (round .infinity) (begin start interval)
      ((List.range n).map fun _ => answeredWith "authorization_pending") = some t) :
    t.outcome = none := by
  have hpending : Guarded (round .infinity) (fun _ r => r = answeredWith "authorization_pending")
      (begin start interval) ((List.range n).map fun _ => answeredWith "authorization_pending") :=
    guarded_of_forall (by simp)
  have hstep : ∀ (s : Loop) (r : Round) (s' : Loop), s.outcome = none →
      r = answeredWith "authorization_pending" → round .infinity s r = some s' →
        s'.outcome = none := by
    rintro s r s' hopen rfl hround
    rw [round, hopen] at hround
    rw [← Option.some.inj hround]
    rfl
  exact exec_invariant_of_guarded hstep rfl hpending h

/-- Logins end, whatever the server answers, exactly when the deadline is a number. -/
theorem ends_iff {start : ℚ} {interval deadline : Double} :
    (∀ rounds : ℕ → Round, ∃ n t, exec (round deadline) (begin start interval)
        ((List.range n).map rounds) = some t ∧ t.outcome.isSome) ↔ deadline ≠ .infinity := by
  constructor
  · rintro hends rfl
    rcases hends fun _ => answeredWith "authorization_pending" with ⟨n, t, ht, hended⟩
    rw [outcome_of_pending ht] at hended
    cases hended
  · intro hdeadline rounds
    cases deadline with
    | infinity => exact absurd rfl hdeadline
    | finite x => exact exists_outcome rfl

/-! ## The distance of polls -/

/-- The sum of `n` waits, each of the interval and five seconds for every `slow_down` before it. -/
def waitSum (interval : ℚ) (slowDowns : List Bool) (n : ℕ) : ℚ :=
  ∑ j ∈ Finset.range n, (max 1 interval * 1000 + 5000 * ((slowDowns.take j).count true : ℚ))

/-- No poll is sent before the waits that are due to it. -/
def NotEarly (start : ℚ) (interval : Double) (polls : List Poll) : Prop :=
  match interval with
  | .finite interval => ∀ n p, polls[n]? = some p →
      start + waitSum interval (polls.map Poll.slowDown) (n + 1) ≤ p.sentAt
  | .infinity => polls = []

/-- The timer can run for the interval after `k` times `slow_down`: a whole number of milliseconds,
of at most 31 bits. -/
def Timed (interval : Double) (k : ℕ) : Prop :=
  ∃ (x : ℚ) (m : ℤ), interval = .finite x ∧ max 1 x * 1000 = m ∧ m + 5000 * k ≤ 2147483647

/-- Whole milliseconds are not rounded. -/
theorem intervalAfter_of_whole {x : ℚ} {m : ℤ} (hx : max 1 x * 1000 = m) :
    ∀ k : ℕ, m + 5000 * k ≤ 2147483647 →
      intervalAfter (.finite x) k = .finite ((m + 5000 * k : ℤ) : ℚ) := by
  have hpos : (0 : ℤ) ≤ m := by
    have hm : (0 : ℚ) ≤ m := by
      rw [← hx]
      positivity
    exact_mod_cast hm
  intro k
  induction k with
  | zero =>
      intro hk
      rw [intervalAfter, Double.map, hx, Double.ofRat_intCast (by rw [abs_of_nonneg hpos]; omega)]
      simp
  | succ k ih =>
      intro hk
      have hsum : ((m + 5000 * k : ℤ) : ℚ) + 5000 = ((m + 5000 * (k + 1 : ℕ) : ℤ) : ℚ) := by
        push_cast
        ring
      have hsmall : |m + 5000 * ((k + 1 : ℕ) : ℤ)| < 2 ^ 53 := by
        rw [abs_of_nonneg (by positivity)]
        omega
      rw [intervalAfter, ih (by push_cast at hk; omega), Double.map, hsum,
        Double.ofRat_intCast hsmall]

theorem timerDelay_of_timed {x : ℚ} {k : ℕ} (h : Timed (.finite x) k) :
    timerDelay (intervalAfter (.finite x) k) = max 1 x * 1000 + 5000 * k := by
  rcases h with ⟨x', m, heq, hm, hk⟩
  cases heq
  have hone : (1000 : ℤ) ≤ m := by
    have hmax : (1 : ℚ) ≤ max 1 x := le_max_left _ _
    have hm' : (1000 : ℚ) ≤ m := by
      rw [← hm]
      linarith
    exact_mod_cast hm'
  have hlarge : ¬(2147483647 : ℚ) < ((m + 5000 * k : ℤ) : ℚ) := by
    rw [not_lt]
    exact_mod_cast hk
  have hsmall : ¬((m + 5000 * k : ℤ) : ℚ) < 1 := by
    rw [not_lt]
    exact_mod_cast (by omega : (1 : ℤ) ≤ m + 5000 * k)
  rw [intervalAfter_of_whole hm k hk, timerDelay, if_neg (not_or.2 ⟨hlarge, hsmall⟩),
    Int.floor_intCast, hm]
  push_cast
  rfl

section Polls

variable {start : ℚ} {interval deadline : Double} {rounds : ℕ → Round}

theorem count_slowDown_take {m j : ℕ} (hj : j ≤ m) :
    ((((List.range m).map (pollOf start interval rounds)).map Poll.slowDown).take j).count true =
      slowDowns rounds j := by
  have htake : (((List.range m).map (pollOf start interval rounds)).map Poll.slowDown).take j =
      (List.range j).map fun i => (answered (rounds i).reply).1 := by
    rw [List.map_map, ← List.map_take, List.take_range, min_eq_left hj]
    rfl
  rw [htake]
  clear htake hj
  induction j with
  | zero => rfl
  | succ j ih =>
      rw [List.range_succ, List.map_append, List.count_append, ih, slowDowns, List.map_singleton]
      cases (answered (rounds j).reply).1 <;> simp

/-- Polls whose timers run for their intervals keep their distance. -/
theorem notEarly_of_timed {m : ℕ} (h : ∀ j < m, Timed interval (slowDowns rounds j)) :
    NotEarly start interval ((List.range m).map (pollOf start interval rounds)) := by
  cases interval with
  | infinity =>
      cases m with
      | zero => rfl
      | succ m =>
          rcases h 0 (Nat.succ_pos m) with ⟨x, k, heq, -⟩
          cases heq
  | finite x =>
      intro n p hp
      rcases List.getElem?_eq_some_iff.1 hp with ⟨hn, hpoll⟩
      rw [List.length_map, List.length_range] at hn
      rw [List.getElem_map, List.getElem_range] at hpoll
      subst hpoll
      -- Each wait is at least what is due, and requests take their time besides.
      have hwaits : waitSum x
          (((List.range m).map (pollOf start (.finite x) rounds)).map Poll.slowDown) (n + 1) ≤
            ∑ j ∈ Finset.range (n + 1), waitOf (.finite x) rounds j := by
        refine Finset.sum_le_sum fun j hj => ?_
        have hjm : j < m := by
          have hlt := Finset.mem_range.1 hj
          omega
        rw [count_slowDown_take hjm.le, waitOf, timerDelay_of_timed (h j hjm)]
        linarith [(rounds j).late_nonneg]
      have htook : ∑ j ∈ Finset.range n, waitOf (.finite x) rounds j ≤
          ∑ j ∈ Finset.range n, (waitOf (.finite x) rounds j + (rounds j).took) :=
        Finset.sum_le_sum fun j _ => by linarith [(rounds j).took_nonneg]
      rw [Finset.sum_range_succ] at hwaits
      change _ ≤ beginsAt start (.finite x) rounds n + waitOf (.finite x) rounds n
      rw [beginsAt]
      linarith

/-! ## The deadline -/

/-- No poll is sent after the deadline. -/
def NotLate (deadline : Double) (polls : List Poll) : Prop :=
  ∀ p ∈ polls, deadline.atLeast p.sentAt = true

/-- No poll of a run is late exactly when the deadline falls into none of its waits. -/
theorem Reached.notLate_iff {n : ℕ} {s : Loop} (h : Reached start interval rounds deadline n s) :
    NotLate deadline s.polls ↔
      ∀ j < n, deadline.atLeast ⌊beginsAt start interval rounds j⌋ = true →
        deadline.atLeast (beginsAt start interval rounds j + waitOf interval rounds j) = true := by
  rcases h.polls with ⟨m, hm, hpolls, hbefore, hbehind⟩
  rw [hpolls]
  constructor
  · intro hall j hj hbegun
    have hsent : j < m := by
      by_contra hge
      rw [hbehind j hj (not_lt.1 hge)] at hbegun
      cases hbegun
    exact hall (pollOf start interval rounds j)
      (List.mem_map.2 ⟨j, List.mem_range.2 hsent, rfl⟩)
  · intro hall p hp
    rcases List.mem_map.1 hp with ⟨j, hj, rfl⟩
    have hjm := List.mem_range.1 hj
    exact hall j (lt_of_lt_of_le hjm hm) (hbefore j hjm)

end Polls

/-! ## Logins -/

/-- Every login ends exactly if the deadline is a number.  While its timers can run for the
interval, no poll comes before the waits that are due; and none comes after the deadline exactly
when the deadline falls into no wait, as the interval, the `slow_down`s and the delays make them. -/
theorem polling_iff (start : ℚ) (interval expiresIn : Double) :
    ((∀ rounds : ℕ → Round, ∃ n t, exec (round (deadline start expiresIn)) (begin start interval)
        ((List.range n).map rounds) = some t ∧ t.outcome.isSome) ↔
      deadline start expiresIn ≠ .infinity) ∧
    ∀ (rounds : ℕ → Round) (n : ℕ) (t : Loop),
      exec (round (deadline start expiresIn)) (begin start interval)
          ((List.range n).map rounds) = some t →
        ((∀ j < n, Timed interval (slowDowns rounds j)) → NotEarly start interval t.polls) ∧
        (NotLate (deadline start expiresIn) t.polls ↔
          ∀ j < n, (deadline start expiresIn).atLeast ⌊beginsAt start interval rounds j⌋ = true →
            (deadline start expiresIn).atLeast
              (beginsAt start interval rounds j + waitOf interval rounds j) = true) := by
  refine ⟨ends_iff, fun rounds n t h => ⟨fun htimed => ?_, (reached_of_exec h).notLate_iff⟩⟩
  rcases (reached_of_exec h).polls with ⟨m, hm, hpolls, -⟩
  rw [hpolls]
  exact notEarly_of_timed fun j hj => htimed j (lt_of_lt_of_le hj hm)

/-- The server asks to slow down once, and has then nothing to say. -/
def slowDownOnce (j : ℕ) : Round :=
  if j = 0 then answeredWith "slow_down" else answeredWith "authorization_pending"

/-- A code of twenty seconds is polled after five seconds, and after ten more once it has been told
to slow down. -/
theorem polling_iff_slowDown :
    ∃ t, exec (round (deadline 0 (.finite 20))) (begin 0 (.finite 5))
        ((List.range 2).map slowDownOnce) = some t ∧
      t.polls.map Poll.sentAt = [5000, 15000] ∧ NotEarly 0 (.finite 5) t.polls ∧
      NotLate (deadline 0 (.finite 20)) t.polls := by
  have htimes : ((exec (round (deadline 0 (.finite 20))) (begin 0 (.finite 5))
      ((List.range 2).map slowDownOnce)).map fun t => t.polls.map Poll.sentAt) =
        some [5000, 15000] := by
    decide +kernel
  rcases Option.map_eq_some_iff.1 htimes with ⟨t, ht, hpolls⟩
  rcases (polling_iff 0 (.finite 5) (.finite 20)).2 slowDownOnce 2 t ht with ⟨hearly, hlate⟩
  refine ⟨t, ht, hpolls, hearly ?_, hlate.2 (by decide +kernel)⟩
  have hslow : ∀ j < 2, slowDowns slowDownOnce j ≤ 1 := by decide +kernel
  intro j hj
  have hcount := hslow j hj
  exact ⟨5, 5000, rfl, by norm_num, by omega⟩

/-- The server has nothing to say. -/
def neverAuthorized (_ : ℕ) : Round :=
  answeredWith "authorization_pending"

/-- A code of seven seconds that is polled every five seconds is polled three seconds after its
deadline; an interval of three million seconds is over after a millisecond; and a lifetime that no
double holds has no end. -/
theorem poll_after_deadline :
    ((exec (round (deadline 0 (.finite 7))) (begin 0 (.finite 5))
        ((List.range 2).map neverAuthorized)).map
      fun t => t.polls.map Poll.sentAt) = some [5000, 10000] ∧
      (∃ t, exec (round (deadline 0 (.finite 7))) (begin 0 (.finite 5))
          ((List.range 2).map neverAuthorized) = some t ∧
        ¬ NotLate (deadline 0 (.finite 7)) t.polls) ∧
      (∃ t, exec (round (deadline 0 (.finite 6000000))) (begin 0 (.finite 3000000))
          ((List.range 1).map neverAuthorized) = some t ∧
        ¬ NotEarly 0 (.finite 3000000) t.polls) ∧
      ¬ ∀ rounds : ℕ → Round, ∃ n t, exec (round (deadline 0 .infinity)) (begin 0 (.finite 5))
          ((List.range n).map rounds) = some t ∧ t.outcome.isSome := by
  have htimes : ((exec (round (deadline 0 (.finite 7))) (begin 0 (.finite 5))
      ((List.range 2).map neverAuthorized)).map fun t => t.polls.map Poll.sentAt) =
        some [5000, 10000] := by
    decide +kernel
  refine ⟨htimes, ?_, ?_, fun hends => ends_iff.1 hends rfl⟩
  · rcases Option.map_eq_some_iff.1 htimes with ⟨t, ht, hpolls⟩
    refine ⟨t, ht, fun hall => ?_⟩
    have hmem : (10000 : ℚ) ∈ t.polls.map Poll.sentAt := by
      rw [hpolls]
      exact List.mem_cons_of_mem _ List.mem_cons_self
    rcases List.mem_map.1 hmem with ⟨p, hp, hsent⟩
    have hle := hall p hp
    rw [hsent] at hle
    exact absurd hle (by decide +kernel)
  · have htime : ((exec (round (deadline 0 (.finite 6000000))) (begin 0 (.finite 3000000))
        ((List.range 1).map neverAuthorized)).map fun t => t.polls.map Poll.sentAt) =
          some [1] := by
      decide +kernel
    rcases Option.map_eq_some_iff.1 htime with ⟨t, ht, hpolls⟩
    refine ⟨t, ht, fun hall => ?_⟩
    rcases List.map_eq_singleton_iff.1 hpolls with ⟨p, hp, hsent⟩
    have hle := hall 0 p (by rw [hp]; rfl)
    have hdue : waitSum 3000000 (t.polls.map Poll.slowDown) (0 + 1) = 3000000000 := by
      norm_num [waitSum]
    rw [hdue, hsent] at hle
    norm_num at hle

end Login
end Cli
end OpenRouter
