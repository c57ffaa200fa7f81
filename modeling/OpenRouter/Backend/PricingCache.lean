import Mathlib.Algebra.Order.Group.Unbundled.Int
import Mathlib.Logic.Function.Basic
import OpenRouter.Backend.Domain
import OpenRouter.Base.AsciiJson
import OpenRouter.Base.DecimalText
import OpenRouter.Base.Utf8

/-!
# PricingCache — model pricing in front of the database

`PricingRepository`: a row of `model_pricing` is kept in Redis for a minute, as a JSON object of
decimal texts.  What `_cache_set` writes is what `_cache_get` reads (`cacheGet_cacheSet`), and over
a whole run a pricing that `get` returns has been in the database within the last minute
(`recent_of_get`).
-/

namespace OpenRouter
namespace Backend
namespace PricingRepository

open Base

/-- What is raised. -/
inductive Raised
  | unicodeDecodeError
  | jsonDecodeError
  | keyError (key : String)
  | typeError
  /-- `decimal.InvalidOperation` and the other signals of a context. -/
  | decimalSignal
  | valueError (message : String)
  | multipleResultsFound

/-! ## Pricing -/

/-- `ModelPricing` with its decimals as they are written. -/
structure DecimalPricing where
  inputPerMillion : Decimal
  outputPerMillion : Decimal
  cachedInputPerMillion : Option Decimal := none
  reasoningPerMillion : Option Decimal := none
  deriving DecidableEq

/-- The arithmetic of the current context, which may round and raise. -/
structure Arithmetic where
  add : Decimal → Decimal → Except Raised Decimal
  mul : Decimal → Decimal → Except Raised Decimal
  div : Decimal → Decimal → Except Raised Decimal

def ofInt (n : ℤ) : Decimal where
  negative := n < 0
  coefficient := n.natAbs
  exponent := 0

/-- `Decimal("1000000")`. -/
def million : Decimal :=
  ofInt 1000000

namespace DecimalPricing

/-- Tokens at a rate. -/
def term (ar : Arithmetic) (tokens : ℤ) (rate : Decimal) : Except Raised Decimal := do
  ar.div (← ar.mul (ofInt tokens) rate) million

/-- Add the tokens at a rate that may be `None`. -/
def addOptional (ar : Arithmetic) (total : Decimal) (tokens : ℤ) :
    Option Decimal → Except Raised Decimal
  | some rate => if tokens ≠ 0 then do ar.add total (← term ar tokens rate) else .ok total
  | none => .ok total

/-- The amount of `cost`. -/
def cost (ar : Arithmetic) (p : DecimalPricing) (t : TokenCounts) : Except Raised Decimal := do
  let total ← ar.add (← term ar t.input p.inputPerMillion) (← term ar t.output p.outputPerMillion)
  let total ← addOptional ar total t.cachedInput p.cachedInputPerMillion
  let total ← addOptional ar total t.reasoning p.reasoningPerMillion
  if total.negative ∧ total.coefficient ≠ 0 then
    .error (.valueError "Money cannot be negative")
  else
    .ok total

end DecimalPricing

/-! ## Values -/

/-- The number that a decimal is. -/
def value (d : Decimal) : ℚ :=
  (if d.negative then -1 else 1) * (d.coefficient * 10 ^ d.exponent)

theorem value_ofInt (n : ℤ) : value (ofInt n) = n := by
  have habs : ((n.natAbs : ℤ) : ℚ) = (|n| : ℤ) := by
    rw [Int.natCast_natAbs]
  rcases lt_or_ge n 0 with h | h
  · simp [value, ofInt, h, abs_of_neg h]
  · simp [value, ofInt, not_lt.2 h, abs_of_nonneg h]

theorem value_neg_iff (d : Decimal) :
    value d < 0 ↔ d.negative = true ∧ d.coefficient ≠ 0 := by
  have hscale : (0 : ℚ) < 10 ^ d.exponent := zpow_pos (by norm_num) _
  have hnonneg : (0 : ℚ) ≤ d.coefficient * 10 ^ d.exponent :=
    mul_nonneg (Nat.cast_nonneg _) hscale.le
  by_cases hsign : d.negative = true
  · have hpos : (0 : ℚ) < d.coefficient * 10 ^ d.exponent ↔ d.coefficient ≠ 0 := by
      rw [mul_pos_iff_of_pos_right hscale, Nat.cast_pos, Nat.pos_iff_ne_zero]
    rw [value, if_pos hsign, neg_one_mul, neg_lt_zero, hpos]
    exact (and_iff_right hsign).symm
  · rw [value, if_neg hsign, one_mul]
    exact ⟨fun h => absurd h (not_lt.2 hnonneg), fun h => absurd h.1 hsign⟩

/-- The context neither rounds nor raises. -/
structure Arithmetic.Exact (ar : Arithmetic) : Prop where
  add : ∀ x y, ∃ z, ar.add x y = .ok z ∧ value z = value x + value y
  mul : ∀ x y, ∃ z, ar.mul x y = .ok z ∧ value z = value x * value y
  div_million : ∀ x, ∃ z, ar.div x million = .ok z ∧ value z = value x / 1000000

/-! ## An arithmetic that does not round -/

/-- The coefficient with its sign, at an exponent that is not above the one of the decimal. -/
def signedAt (e : ℤ) (d : Decimal) : ℤ :=
  (if d.negative then -1 else 1) * (d.coefficient * 10 ^ (d.exponent - e).toNat)

/-- Take off trailing zeros, `n` of them at most. -/
def strip : ℕ → Decimal → Decimal
  | 0, d => d
  | n + 1, d =>
      if d.coefficient % 10 = 0 then
        strip n { d with coefficient := d.coefficient / 10, exponent := d.exponent + 1 }
      else d

/-- A context that never runs out of digits; of divisors it knows the one of `cost`. -/
def unbounded : Arithmetic where
  add x y :=
    let e := min x.exponent y.exponent
    let total := signedAt e x + signedAt e y
    .ok
      { -- A sum of nothing is negative if both of its terms are.
        negative := if total = 0 then x.negative && y.negative else decide (total < 0)
        coefficient := total.natAbs
        exponent := e }
  mul x y :=
    .ok
      { negative := x.negative != y.negative
        coefficient := x.coefficient * y.coefficient
        exponent := x.exponent + y.exponent }
  div x y :=
    -- The quotient has the exponent of `x` where that is exact, and else as few digits as it can.
    if y = million then .ok (strip 6 { x with exponent := x.exponent - 6 })
    else .error .decimalSignal

theorem value_strip (n : ℕ) (d : Decimal) : value (strip n d) = value d := by
  induction n generalizing d with
  | zero => rfl
  | succ n ih =>
      unfold strip
      split
      · rename_i hmod
        have hten : (d.coefficient : ℚ) = (d.coefficient / 10 : ℕ) * 10 := by
          exact_mod_cast (Nat.div_mul_cancel (Nat.dvd_of_mod_eq_zero hmod)).symm
        rw [ih, value, value, zpow_add_one₀ (by norm_num), hten]
        ring
      · rfl

theorem signedAt_mul {e : ℤ} {d : Decimal} (h : e ≤ d.exponent) :
    (signedAt e d : ℚ) * 10 ^ e = value d := by
  have hexponent : ((d.exponent - e).toNat : ℤ) + e = d.exponent := by
    rw [Int.toNat_of_nonneg (sub_nonneg.2 h), sub_add_cancel]
  have hscale : (10 : ℚ) ^ (d.exponent - e).toNat * 10 ^ e = 10 ^ d.exponent := by
    rw [← zpow_natCast, ← zpow_add₀ (by norm_num), hexponent]
  rw [signedAt, value, ← hscale]
  push_cast
  ring

/-- The decimal of a coefficient with its sign. -/
theorem value_natAbs {z : ℤ} {negative : Bool} (h : z ≠ 0 → negative = decide (z < 0)) (e : ℤ) :
    value { negative := negative, coefficient := z.natAbs, exponent := e } = z * 10 ^ e := by
  have habs : ((z.natAbs : ℤ) : ℚ) = (|z| : ℤ) := by
    rw [Int.natCast_natAbs]
  rcases lt_trichotomy z 0 with hneg | rfl | hpos
  · rw [h hneg.ne]
    simp [value, hneg, abs_of_neg hneg]
  · simp [value]
  · rw [h hpos.ne']
    simp [value, not_lt.2 hpos.le, abs_of_pos hpos]

/-- What is assumed of a context can be had. -/
theorem unbounded_exact : unbounded.Exact where
  add x y := by
    refine ⟨_, rfl, ?_⟩
    rw [value_natAbs fun hne => if_neg hne, Int.cast_add, add_mul,
      signedAt_mul (min_le_left _ _), signedAt_mul (min_le_right _ _)]
  mul x y := by
    refine ⟨_, rfl, ?_⟩
    have hscale : (10 : ℚ) ^ (x.exponent + y.exponent) = 10 ^ x.exponent * 10 ^ y.exponent :=
      zpow_add₀ (by norm_num) _ _
    simp only [value, hscale, Nat.cast_mul]
    cases x.negative <;> cases y.negative <;> simp <;> ring
  div_million x := by
    have hdiv : unbounded.div x million =
        .ok (strip 6 { x with exponent := x.exponent - 6 }) := by
      simp [unbounded]
    have hscale : (10 : ℚ) ^ (x.exponent - 6) = 10 ^ x.exponent / 1000000 := by
      rw [zpow_sub₀ (by norm_num)]
      norm_num
    refine ⟨_, hdiv, ?_⟩
    rw [value_strip, value, value, hscale, mul_div_assoc, mul_div_assoc]

namespace DecimalPricing

/-- The rates as numbers. -/
def rates (p : DecimalPricing) : ModelPricing where
  inputPerMillion := value p.inputPerMillion
  outputPerMillion := value p.outputPerMillion
  cachedInputPerMillion := p.cachedInputPerMillion.map value
  reasoningPerMillion := p.reasoningPerMillion.map value

variable {ar : Arithmetic}

theorem term_of_exact (har : ar.Exact) (tokens : ℤ) (rate : Decimal) :
    ∃ z, term ar tokens rate = .ok z ∧ value z = tokens * value rate / 1000000 := by
  rcases har.mul (ofInt tokens) rate with ⟨x, hx, hvalue⟩
  rcases har.div_million x with ⟨z, hz, hquotient⟩
  refine ⟨z, ?_, ?_⟩
  · simp only [term, hx, bind, Except.bind, hz]
  · rw [hquotient, hvalue, value_ofInt]

theorem addOptional_of_exact (har : ar.Exact) (total : Decimal) (tokens : ℤ)
    (rate : Option Decimal) :
    ∃ z, addOptional ar total tokens rate = .ok z ∧
      value z = value total + ModelPricing.optionalTerm tokens (rate.map value) := by
  cases rate with
  | none => exact ⟨total, rfl, by simp [ModelPricing.optionalTerm]⟩
  | some rate =>
      by_cases htokens : tokens = 0
      · exact ⟨total, by simp [addOptional, htokens], by simp [ModelPricing.optionalTerm, htokens]⟩
      · rcases term_of_exact har tokens rate with ⟨x, hx, hterm⟩
        rcases har.add total x with ⟨z, hz, hsum⟩
        refine ⟨z, ?_, ?_⟩
        · simp only [addOptional, ne_eq, htokens, not_false_eq_true, if_true, hx, bind, Except.bind,
            hz]
        · rw [hsum, hterm]
          simp [ModelPricing.optionalTerm, htokens]

/-- Where the context is exact, the amount is the one that `ModelPricing.cost` computes. -/
theorem cost_of_exact (har : ar.Exact) (p : DecimalPricing) (t : TokenCounts) :
    (∃ z m, p.cost ar t = .ok z ∧ p.rates.cost t = .ok m ∧ m.amount = value z) ∨
      ∃ message, p.cost ar t = .error (.valueError message) ∧ p.rates.cost t = .error message := by
  -- In the order in which `cost` adds them up.
  rcases term_of_exact har t.input p.inputPerMillion with ⟨x, hx, hxvalue⟩
  rcases term_of_exact har t.output p.outputPerMillion with ⟨y, hy, hyvalue⟩
  rcases har.add x y with ⟨s, hs, hsvalue⟩
  rcases addOptional_of_exact har s t.cachedInput p.cachedInputPerMillion with ⟨c, hc, hcvalue⟩
  rcases addOptional_of_exact har c t.reasoning p.reasoningPerMillion with ⟨z, hz, hzvalue⟩
  have hrates : p.rates.cost t = Money.ofAmount (value z) := by
    rw [hzvalue, hcvalue, hsvalue, hxvalue, hyvalue]
    rfl
  have hcost : p.cost ar t =
      if z.negative = true ∧ z.coefficient ≠ 0 then
        .error (.valueError "Money cannot be negative")
      else .ok z := by
    simp only [cost, hx, hy, hs, hc, hz, bind, Except.bind]
  rw [hcost, hrates]
  by_cases hneg : value z < 0
  · refine .inr ⟨_, if_pos ((value_neg_iff z).1 hneg), ?_⟩
    exact dif_neg (not_le.2 hneg)
  · have hnonneg : 0 ≤ value z := not_lt.1 hneg
    exact .inl ⟨z, { amount := value z, nonneg := hnonneg },
      if_neg (fun h => hneg ((value_neg_iff z).2 h)), dif_pos hnonneg, rfl⟩

end DecimalPricing

/-! ## Redis -/

/-- A string with the time at which it expires, in milliseconds. -/
structure Entry where
  value : Bytes
  expireAt : ℤ

abbrev Redis : Type :=
  String → Option Entry

namespace Redis

/-- `GET`. -/
def get (redis : Redis) (now : ℤ) (key : String) : Option Bytes :=
  match redis key with
  | some e => if e.expireAt < now then none else some e.value
  | none => none

/-- `SET` with `EX`. -/
def set (redis : Redis) (now : ℤ) (key : String) (value : Bytes) (ex : ℤ) : Redis :=
  Function.update redis key (some { value := value, expireAt := now + ex * 1000 })

/-- `DEL`. -/
def delete (redis : Redis) (key : String) : Redis :=
  Function.update redis key none

theorem get_set (redis : Redis) (setAt now : ℤ) (key : String) (value : Bytes) (ex : ℤ) :
    (redis.set setAt key value ex).get now key =
      if now ≤ setAt + ex * 1000 then some value else none := by
  rw [get, set, Function.update_self]
  by_cases h : now ≤ setAt + ex * 1000
  · simp only [if_pos h, if_neg (not_lt.2 h)]
  · simp only [if_neg h, if_pos (not_le.1 h)]

end Redis

/-! ## The cache -/

def cacheNs : String :=
  "pricing:"

def cacheTtlS : ℤ :=
  60

/-- `json.loads` of bytes. -/
def loads (raw : Bytes) : Except Raised Json :=
  if encode (decode raw) = raw then
    match parse (decode raw) with
    | some j => .ok j
    | none => .error .jsonDecodeError
  else
    .error .unicodeDecodeError

/-- `data[key]`. -/
def item (ms : List (String × Json)) (key : String) : Except Raised Json :=
  match lastMember ms key with
  | some j => .ok j
  | none => .error (.keyError key)

/-- `Decimal` of what is no string. -/
abbrev Convert : Type :=
  Json → Except Raised Decimal

/-- `Decimal(value)`. -/
def decimalOf (convert : Convert) : Json → Except Raised Decimal
  | .str s =>
      match Decimal.ofText s.toList with
      | some d => .ok d
      | none => .error .decimalSignal
  | j => convert j

/-- `Decimal(data[key]) if data.get(key) is not None else None`. -/
def optionalDecimal (convert : Convert) (ms : List (String × Json)) (key : String) :
    Except Raised (Option Decimal) :=
  match lastMember ms key with
  | none | some .null => .ok none
  | some j => some <$> decimalOf convert j

/-- The pricing that is written as a JSON value. -/
def ofJson (convert : Convert) : Json → Except Raised DecimalPricing
  | .obj ms => do
      let input ← decimalOf convert (← item ms "input_per_million")
      let output ← decimalOf convert (← item ms "output_per_million")
      let cachedInput ← optionalDecimal convert ms "cached_input_per_million"
      let reasoning ← optionalDecimal convert ms "reasoning_per_million"
      return {
        inputPerMillion := input
        outputPerMillion := output
        cachedInputPerMillion := cachedInput
        reasoningPerMillion := reasoning }
  | _ => .error .typeError

/-- `_cache_get`. -/
def cacheGet (convert : Convert) (redis : Redis) (now : ℤ) (modelKey : String) :
    Except Raised (Option DecimalPricing) :=
  match redis.get now (cacheNs ++ modelKey) with
  | none => .ok none
  | some raw => do
      let data ← loads raw
      some <$> ofJson convert data

def str (d : Decimal) : String :=
  String.ofList d.text

/-- The members that `_cache_set` writes. -/
def body (p : DecimalPricing) : List (String × Option String) :=
  [("input_per_million", some (str p.inputPerMillion)),
    ("output_per_million", some (str p.outputPerMillion)),
    ("cached_input_per_million", p.cachedInputPerMillion.map str),
    ("reasoning_per_million", p.reasoningPerMillion.map str)]

/-- `_cache_set`. -/
def cacheSet (redis : Redis) (now : ℤ) (modelKey : String) (p : DecimalPricing) : Redis :=
  redis.set now (cacheNs ++ modelKey) (encode (dumps (body p))) cacheTtlS

/-! ## The round trip -/

variable (convert : Convert)

theorem loads_encode_dumps (ms : List (String × Option String)) :
    loads (encode (dumps ms)) = .ok (.obj (ms.map flatMember)) := by
  have hbytes : encode (decode (encode (dumps ms))) = encode (dumps ms) := by
    rw [decode_encode]
  rw [loads, if_pos hbytes, decode_encode, parse_dumps]

theorem decimalOf_str (d : Decimal) : decimalOf convert (.str (str d)) = .ok d := by
  rw [decimalOf, str, String.toList_ofList, Decimal.ofText_text]

theorem optionalDecimal_of_member {ms : List (String × Json)} {key : String} (d : Option Decimal)
    (h : lastMember ms key = some (flatMember (key, d.map str)).2) :
    optionalDecimal convert ms key = .ok d := by
  cases d with
  | none =>
      rw [optionalDecimal, h]
      rfl
  | some d =>
      have hread : some <$> decimalOf convert (.str (str d)) = .ok (some d) := by
        rw [decimalOf_str]
        rfl
      rw [optionalDecimal, h]
      exact hread

/-- Each field is read from the member that holds it. -/
theorem ofJson_body (p : DecimalPricing) :
    ofJson convert (.obj ((body p).map flatMember)) = .ok p := by
  -- The names are distinct, so the last member of a name is the only one.
  have hinput : item ((body p).map flatMember) "input_per_million" =
      .ok (.str (str p.inputPerMillion)) := rfl
  have houtput : item ((body p).map flatMember) "output_per_million" =
      .ok (.str (str p.outputPerMillion)) := rfl
  have hcached : optionalDecimal convert ((body p).map flatMember) "cached_input_per_million" =
      .ok p.cachedInputPerMillion := optionalDecimal_of_member convert _ rfl
  have hreasoning : optionalDecimal convert ((body p).map flatMember) "reasoning_per_million" =
      .ok p.reasoningPerMillion := optionalDecimal_of_member convert _ rfl
  simp only [ofJson, hinput, houtput, hcached, hreasoning, decimalOf_str, bind, Except.bind, pure,
    Except.pure]

theorem cacheGet_cacheSet (redis : Redis) (setAt now : ℤ) (modelKey : String)
    (p : DecimalPricing) :
    cacheGet convert (cacheSet redis setAt modelKey p) now modelKey =
      .ok (if now ≤ setAt + cacheTtlS * 1000 then some p else none) := by
  rw [cacheGet, cacheSet, Redis.get_set]
  by_cases h : now ≤ setAt + cacheTtlS * 1000
  · have hread := ofJson_body convert p
    simp only [if_pos h, loads_encode_dumps, bind, Except.bind, hread]
    rfl
  · simp only [if_neg h]

/-! ## The rows -/

/-- The active rows of `model_pricing`, by key. -/
abbrev Rows : Type :=
  String → List DecimalPricing

/-- `_db_get`. -/
def dbGet (rows : Rows) (modelKey : String) : Except Raised (Option DecimalPricing) :=
  match rows modelKey with
  | [] => .ok none
  | [row] => .ok (some row)
  | _ => .error .multipleResultsFound

/-- The amount of the tokens at a pricing that was looked up. -/
def charge (ar : Arithmetic) (tokens : TokenCounts) :
    Except Raised (Option DecimalPricing) → Except Raised (Option Decimal)
  | .ok (some p) => some <$> p.cost ar tokens
  | .ok none => .ok none
  | .error exc => .error exc

/-- A cached pricing is the one that was cached, and bills what its row bills. -/
theorem cached_pricing_is_the_row (redis : Redis) (setAt now : ℤ) (modelKey : String)
    (p : DecimalPricing) :
    cacheGet convert (cacheSet redis setAt modelKey p) now modelKey =
        .ok (if now ≤ setAt + cacheTtlS * 1000 then some p else none) ∧
      ∀ (rows : Rows) (ar : Arithmetic) (tokens : TokenCounts),
        dbGet rows modelKey = .ok (some p) → now ≤ setAt + cacheTtlS * 1000 →
          charge ar tokens (cacheGet convert (cacheSet redis setAt modelKey p) now modelKey) =
            charge ar tokens (dbGet rows modelKey) := by
  have hread := cacheGet_cacheSet convert redis setAt now modelKey p
  refine ⟨hread, ?_⟩
  intro rows ar tokens hrow hlive
  rw [hread, if_pos hlive, hrow]

/-- `0.150` and `0.600` for a million tokens, and nothing for cached ones. -/
def miniPricing : DecimalPricing where
  inputPerMillion := { negative := false, coefficient := 150, exponent := -3 }
  outputPerMillion := { negative := false, coefficient := 600, exponent := -3 }
  cachedInputPerMillion := some (ofInt 0)

/-- At the end of its minute the pricing is read with all its zeros, and bills `0.00045`. -/
theorem cached_pricing_is_the_row_mini :
    cacheGet (fun _ => .error .typeError)
        (cacheSet (fun _ => none) 0 "gpt-4o-mini" miniPricing) 60000 "gpt-4o-mini" =
      .ok (some miniPricing) ∧
    charge unbounded { input := 1000, output := 500, cachedInput := 200 }
        (cacheGet (fun _ => .error .typeError)
          (cacheSet (fun _ => none) 0 "gpt-4o-mini" miniPricing) 60000 "gpt-4o-mini") =
      .ok (some { negative := false, coefficient := 45, exponent := -5 }) := by
  have hlive : (60000 : ℤ) ≤ 0 + cacheTtlS * 1000 := by decide
  rcases cached_pricing_is_the_row (fun _ => .error .typeError) (fun _ => none) 0 60000
    "gpt-4o-mini" miniPricing with ⟨hread, hcharge⟩
  refine ⟨hread.trans (by rw [if_pos hlive]), ?_⟩
  rw [hcharge (fun _ => [miniPricing]) unbounded _ rfl hlive]
  rfl

/-! ## Calls one after the other -/

/-- `get`: the cache is read at `now` and written at `setAt`, the database between the two. -/
def get (redis : Redis) (now setAt : ℤ) (rows : Rows) (modelKey : String) :
    Except Raised (Option DecimalPricing) × Redis :=
  match cacheGet convert redis now modelKey with
  | .error exc => (.error exc, redis)
  | .ok (some cached) => (.ok (some cached), redis)
  | .ok none =>
      match dbGet rows modelKey with
      | .error exc => (.error exc, redis)
      | .ok none => (.ok none, redis)
      | .ok (some loaded) => (.ok (some loaded), cacheSet redis setAt modelKey loaded)

inductive Call
  | get (now setAt : ℤ) (rows : Rows) (modelKey : String)
  | invalidate (modelKey : String)

/-- Redis after a call. -/
def call (redis : Redis) : Call → Redis
  | .get now setAt rows modelKey => (get convert redis now setAt rows modelKey).2
  | .invalidate modelKey => redis.delete (cacheNs ++ modelKey)

/-- A call has cached `p` at `setAt`, having found it in the database. -/
def Loaded (calls : List Call) (modelKey : String) (p : DecimalPricing) (setAt : ℤ) : Prop :=
  ∃ now rows, Call.get now setAt rows modelKey ∈ calls ∧ dbGet rows modelKey = .ok (some p)

/-- Every pricing in Redis has been loaded, and expires a minute after. -/
def AllLoaded (calls : List Call) (redis : Redis) : Prop :=
  ∀ modelKey e, redis (cacheNs ++ modelKey) = some e → ∃ p setAt,
    Loaded calls modelKey p setAt ∧
      e = { value := encode (dumps (body p)), expireAt := setAt + cacheTtlS * 1000 }

variable {convert} {redis : Redis} {now setAt : ℤ} {rows : Rows} {modelKey : String}
  {calls : List Call}

/-- A call to `get` leaves Redis as it is, or caches the row. -/
theorem get_cases (convert : Convert) (redis : Redis) (now setAt : ℤ) (rows : Rows)
    (modelKey : String) :
    (get convert redis now setAt rows modelKey).2 = redis ∨
      ∃ p, dbGet rows modelKey = .ok (some p) ∧
        (get convert redis now setAt rows modelKey).2 = cacheSet redis setAt modelKey p := by
  unfold get
  split
  · exact .inl rfl
  · exact .inl rfl
  · split
    · exact .inl rfl
    · exact .inl rfl
    · rename_i loaded hrow
      exact .inr ⟨loaded, hrow, rfl⟩

theorem Loaded.append {p : DecimalPricing} (h : Loaded calls modelKey p setAt)
    (later : List Call) : Loaded (calls ++ later) modelKey p setAt := by
  rcases h with ⟨now, rows, hmem, hrow⟩
  exact ⟨now, rows, List.mem_append_left later hmem, hrow⟩

theorem AllLoaded.append (h : AllLoaded calls redis) (later : List Call) :
    AllLoaded (calls ++ later) redis := by
  intro modelKey e he
  rcases h modelKey e he with ⟨p, setAt, hloaded, hentry⟩
  exact ⟨p, setAt, hloaded.append later, hentry⟩

theorem AllLoaded.cacheSet {p : DecimalPricing} (h : AllLoaded calls redis)
    (hloaded : Loaded calls modelKey p setAt) :
    AllLoaded calls (cacheSet redis setAt modelKey p) := by
  intro key e he
  -- The key of a pricing tells its model.
  by_cases hkey : cacheNs ++ key = cacheNs ++ modelKey
  · rw [PricingRepository.cacheSet, Redis.set, hkey, Function.update_self] at he
    cases he
    rw [(String.append_right_inj cacheNs).1 hkey]
    exact ⟨p, setAt, hloaded, rfl⟩
  · rw [PricingRepository.cacheSet, Redis.set, Function.update_of_ne hkey] at he
    exact h key e he

theorem AllLoaded.delete (h : AllLoaded calls redis) (modelKey : String) :
    AllLoaded calls (redis.delete (cacheNs ++ modelKey)) := by
  intro key e he
  by_cases hkey : cacheNs ++ key = cacheNs ++ modelKey
  · rw [Redis.delete, hkey, Function.update_self] at he
    cases he
  · rw [Redis.delete, Function.update_of_ne hkey] at he
    exact h key e he

/-- One call keeps the invariant. -/
theorem AllLoaded.call (h : AllLoaded calls redis) (c : Call) :
    AllLoaded (calls ++ [c]) (call convert redis c) := by
  have hearlier := h.append [c]
  cases c with
  | get now setAt rows modelKey =>
      rcases get_cases convert redis now setAt rows modelKey with hsame | ⟨p, hrow, hset⟩
      · rw [PricingRepository.call, hsame]
        exact hearlier
      · rw [PricingRepository.call, hset]
        exact hearlier.cacheSet
          ⟨now, rows, List.mem_append_right _ (List.mem_singleton_self _), hrow⟩
  | invalidate modelKey => exact hearlier.delete modelKey

/-- Redis after calls, empty before the first. -/
def after (convert : Convert) (calls : List Call) : Redis :=
  calls.foldl (call convert) fun _ => none

theorem allLoaded_after (convert : Convert) (calls : List Call) :
    AllLoaded calls (after convert calls) := by
  induction calls using List.reverseRecOn with
  | nil =>
      intro modelKey e he
      cases he
  | append_singleton calls c ih =>
      rw [after, List.foldl_append]
      exact ih.call c

/-- What the cache returns after any calls has been loaded at most a minute before. -/
theorem cacheGet_after {p : DecimalPricing}
    (h : cacheGet convert (after convert calls) now modelKey = .ok (some p)) :
    ∃ setAt, Loaded calls modelKey p setAt ∧ now ≤ setAt + cacheTtlS * 1000 := by
  cases hentry : after convert calls (cacheNs ++ modelKey) with
  | none =>
      rw [cacheGet, Redis.get, hentry] at h
      cases h
  | some e =>
      rcases allLoaded_after convert calls modelKey e hentry with ⟨q, setAt, hloaded, rfl⟩
      by_cases hlive : now ≤ setAt + cacheTtlS * 1000
      · -- The entry is the writing of `q`, so it is read as `q`.
        have hread := ofJson_body convert q
        simp only [cacheGet, Redis.get, hentry, if_neg (not_lt.2 hlive), loads_encode_dumps, bind,
          Except.bind, hread] at h
        cases h
        exact ⟨setAt, hloaded, hlive⟩
      · simp only [cacheGet, Redis.get, hentry, if_pos (not_le.1 hlive)] at h
        cases h

/-- A pricing that `get` returns is the row, or has been it within the last minute. -/
theorem recent_of_get {p : DecimalPricing}
    (h : (get convert (after convert calls) now setAt rows modelKey).1 = .ok (some p)) :
    dbGet rows modelKey = .ok (some p) ∨
      ∃ loadedAt, Loaded calls modelKey p loadedAt ∧ now ≤ loadedAt + cacheTtlS * 1000 := by
  unfold get at h
  split at h
  · cases h
  · rename_i cached hcached
    cases h
    exact .inr (cacheGet_after hcached)
  · split at h
    · cases h
    · cases h
    · rename_i loaded hrow
      cases h
      exact .inl hrow

end PricingRepository
end Backend
end OpenRouter
