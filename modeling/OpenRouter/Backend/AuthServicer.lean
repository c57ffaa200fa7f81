import OpenRouter.Backend.CurrentAuth
import OpenRouter.Backend.Reservations
import OpenRouter.Base.Binary64
import OpenRouter.Base.Json

/-!
# AuthServicer — the key as the backend sends it

`validateKey` is `AuthServicer.ValidateKey`: it resolves a lookup hash to the message of
`auth.proto`.  It raises when what is reserved of a balance is more than what is available
(`exists_validateKey`); the credit that it sends is exact to the micro-dollar
(`store_remainingCredits`).
-/

namespace OpenRouter
namespace Backend
namespace AuthServicer

open Base Routes
open Reservations (SpendError)

/-! ## The message -/

structure RateLimitPolicy where
  requestsPerMinute : UInt32 := 0
  tokensPerMinute : UInt32 := 0
  concurrentRequests : UInt32 := 0
  requestsPerDay : UInt32 := 0
  burstMultiplier : UInt32 := 0

/-- `BudgetPolicy` of `auth.proto`; a `double` is its value. -/
structure BudgetPolicy where
  remainingCredits : ℚ := 0
  dailyCap : ℚ := 0
  monthlyCap : ℚ := 0
  hardStop : Bool := false

/-- `ValidateKeyResponse`; a field that is not set has the default of proto3. -/
structure ValidateKeyResponse where
  valid : Bool := false
  keyId : String := ""
  orgId : String := ""
  userId : String := ""
  allowedModels : List String := []
  deniedModels : List String := []
  rateLimit : Option RateLimitPolicy := none
  budget : Option BudgetPolicy := none
  expiresAt : Option ℤ := none
  revocationReason : String := ""

/-! ## Text of a UUID -/

/-- The digit of `16 ^ i`. -/
def nibble (u : UUID) (i : ℕ) : ℕ :=
  u.toNat / 16 ^ i % 16

/-- `'%032x' % u.int`. -/
def hex (u : UUID) : List Char :=
  (List.range 32).map fun i => hexDigit (nibble u (31 - i))

/-- `str(u)`. -/
def uuidStr (u : UUID) : String :=
  String.ofList
    ((hex u).take 8 ++ '-' :: ((hex u).drop 8).take 4 ++ '-' :: ((hex u).drop 12).take 4 ++
      '-' :: ((hex u).drop 16).take 4 ++ '-' :: (hex u).drop 20)

theorem eq_of_digits {a b : ℕ} (n : ℕ) (ha : a < 16 ^ n) (hb : b < 16 ^ n)
    (h : ∀ i < n, a / 16 ^ i % 16 = b / 16 ^ i % 16) : a = b := by
  induction n generalizing a b with
  | zero =>
      rw [pow_zero, Nat.lt_one_iff] at ha hb
      rw [ha, hb]
  | succ n ih =>
      have hlast : a % 16 = b % 16 := by simpa using h 0 (Nat.succ_pos n)
      have hrest : a / 16 = b / 16 := by
        refine ih ?_ ?_ ?_
        · rw [Nat.div_lt_iff_lt_mul (by norm_num), ← pow_succ]
          exact ha
        · rw [Nat.div_lt_iff_lt_mul (by norm_num), ← pow_succ]
          exact hb
        · intro i hi
          rw [Nat.div_div_eq_div_mul, Nat.div_div_eq_div_mul, ← pow_succ']
          exact h (i + 1) (Nat.succ_lt_succ hi)
      omega

theorem hexValue_nibble (u : UUID) (i : ℕ) : hexValue (hexDigit (nibble u i)) = some (nibble u i) :=
  hexValue_hexDigit (Nat.mod_lt _ (by norm_num))

theorem hex_injective : Function.Injective hex := by
  intro u v h
  have hdigits : ∀ i < 32, nibble u i = nibble v i := by
    intro i hi
    have hchar : hexDigit (nibble u (31 - (31 - i))) = hexDigit (nibble v (31 - (31 - i))) :=
      List.map_inj_left.1 h (31 - i) (by simp; omega)
    -- The digits are written from the last nibble to the first.
    rw [Nat.sub_sub_self (by omega)] at hchar
    have hvalue := congrArg hexValue hchar
    rwa [hexValue_nibble, hexValue_nibble, Option.some.injEq] at hvalue
  refine BitVec.eq_of_toNat_eq (eq_of_digits 32 ?_ ?_ hdigits)
  · exact u.isLt.trans_le (by norm_num)
  · exact v.isLt.trans_le (by norm_num)

theorem ne_dash_of_mem_hex {u : UUID} {c : Char} (h : c ∈ hex u) : c ≠ '-' := by
  rintro rfl
  rcases List.mem_map.1 h with ⟨i, -, hi⟩
  have hvalue := hexValue_nibble u (31 - i)
  rw [hi] at hvalue
  cases hvalue

/-- Without its dashes the text is the digits. -/
theorem filter_uuidStr (u : UUID) : (uuidStr u).toList.filter (· ≠ '-') = hex u := by
  have hkeep : ∀ l : List Char, (∀ c ∈ l, c ∈ hex u) → l.filter (· ≠ '-') = l := by
    intro l hl
    rw [List.filter_eq_self]
    intro c hc
    simpa using ne_dash_of_mem_hex (hl c hc)
  have hgroup : ∀ i j, (((hex u).drop i).take j).filter (· ≠ '-') = ((hex u).drop i).take j :=
    fun i j => hkeep _ fun c hc => List.mem_of_mem_drop (List.mem_of_mem_take hc)
  have hrest : ∀ i j, ((hex u).drop i).take j ++ (hex u).drop (i + j) = (hex u).drop i := by
    intro i j
    rw [← List.drop_drop]
    exact List.take_append_drop j _
  have hfirst : ((hex u).take 8).filter (· ≠ '-') = (hex u).take 8 := hgroup 0 8
  have hlast : ((hex u).drop 20).filter (· ≠ '-') = (hex u).drop 20 :=
    hkeep _ fun c hc => List.mem_of_mem_drop hc
  simp only [uuidStr, String.toList_ofList, List.filter_append, List.filter_cons, hfirst, hgroup,
    hlast, ne_eq, not_true_eq_false, decide_false, Bool.false_eq_true, if_false]
  rw [List.append_assoc, List.append_assoc, List.append_assoc, hrest 16 4, hrest 12 4, hrest 8 4,
    List.take_append_drop]

theorem uuidStr_injective : Function.Injective uuidStr := by
  intro u v h
  apply hex_injective
  rw [← filter_uuidStr u, ← filter_uuidStr v, h]

/-! ## ValidateKey -/

/-- `SqlCreditRepository.get_for_update`: a missing row has the defaults of the table. -/
def getForUpdate (db : Db) (org : UUID) : Backend.CreditBalance :=
  (db.creditBalances org).getD {}

/-- `_to_domain`. -/
def toDomain (org : UUID) (row : Backend.CreditBalance) : Reservations.CreditBalance where
  orgId := org
  available := row.available.toDecimal
  reserved := row.reserved.toDecimal
  monthlyCap := row.monthlyCap.map Numeric.toDecimal
  dailyCap := row.dailyCap.map Numeric.toDecimal
  hardStop := row.hardStop

/-- The `BudgetPolicy` that is sent for a balance. -/
def budgetOf (balance : Reservations.CreditBalance) (usable : Money) : BudgetPolicy where
  remainingCredits := toBinary64 usable.amount
  dailyCap := toBinary64 (balance.dailyCap.getD 0)
  monthlyCap := toBinary64 (balance.monthlyCap.getD 0)
  hardStop := balance.hardStop

/-- `ValidateKey`; what it raises is a failed call to its client. -/
def validateKey (db : Db) (now : ℤ) (keyHash : String) : Except SpendError ValidateKeyResponse :=
  match findByLookupHash db keyHash with
  | none => .ok { valid := false, revocationReason := "unknown_key" }
  | some key =>
      match key.assertUsable now with
      | .error exc => .ok { valid := false, revocationReason := exc.message }
      | .ok () =>
          let balance := toDomain key.orgId (getForUpdate db key.orgId)
          match balance.usable with
          | .error exc => .error exc
          | .ok usable =>
              .ok
                { valid := true
                  keyId := uuidStr key.id
                  orgId := uuidStr key.orgId
                  userId := uuidStr key.userId
                  allowedModels := key.allowedModels
                  deniedModels := key.deniedModels
                  budget := some (budgetOf balance usable) }

/-- `0 <= reserved <= available`, as the columns have it. -/
structure Covered (row : Backend.CreditBalance) : Prop where
  nonneg : 0 ≤ row.reserved.toDecimal
  le : row.reserved.toDecimal ≤ row.available.toDecimal

variable {db : Db} {now : ℤ} {keyHash : String} {key : APIKey}

theorem validateKey_of_usable (hfind : findByLookupHash db keyHash = some key)
    (husable : key.assertUsable now = .ok ()) {usable : Money}
    (hbalance : (toDomain key.orgId (getForUpdate db key.orgId)).usable = .ok usable) :
    validateKey db now keyHash =
      .ok
        { valid := true
          keyId := uuidStr key.id
          orgId := uuidStr key.orgId
          userId := uuidStr key.userId
          allowedModels := key.allowedModels
          deniedModels := key.deniedModels
          budget := some (budgetOf (toDomain key.orgId (getForUpdate db key.orgId)) usable) } := by
  simp only [validateKey, hfind, husable, hbalance]

theorem validateKey_of_unusable (hfind : findByLookupHash db keyHash = some key) {exc : DomainError}
    (hexc : key.assertUsable now = .error exc) :
    validateKey db now keyHash = .ok { valid := false, revocationReason := exc.message } := by
  simp only [validateKey, hfind, hexc]

/-- What is usable of a covered balance. -/
theorem exists_usable_of_covered {row : Backend.CreditBalance} (h : Covered row) (org : UUID) :
    ∃ m, (toDomain org row).usable = .ok m ∧
      m.amount = row.available.toDecimal - row.reserved.toDecimal := by
  rcases Reservations.CreditBalance.exists_usable_iff.2
    (show (toDomain org row).reserved ≤ (toDomain org row).available from h.le) with ⟨m, hm⟩
  exact ⟨m, hm, Reservations.CreditBalance.amount_of_usable hm⟩

/-- `ValidateKey` does not raise when the balance that it reads is covered. -/
theorem exists_validateKey
    (h : ∀ key, findByLookupHash db keyHash = some key → Covered (getForUpdate db key.orgId)) :
    ∃ resp, validateKey db now keyHash = .ok resp := by
  cases hfind : findByLookupHash db keyHash with
  | none =>
      exact ⟨{ valid := false, revocationReason := "unknown_key" }, by simp [validateKey, hfind]⟩
  | some key =>
      cases husable : key.assertUsable now with
      | error exc => exact ⟨_, validateKey_of_unusable hfind husable⟩
      | ok u =>
          rcases exists_usable_of_covered (h key hfind) key.orgId with ⟨m, hm, -⟩
          exact ⟨_, validateKey_of_usable hfind husable hm⟩

/-- The double that is sent for the usable credit has it to the micro-dollar. -/
theorem store_remainingCredits {row : Backend.CreditBalance} (h : Covered row) {m : Money}
    (hm : m.amount = row.available.toDecimal - row.reserved.toDecimal) :
    ∃ n, Numeric.store (toBinary64 m.amount) = .ok n ∧ n.toDecimal = m.amount := by
  have hscaled : m.amount * 10 ^ 6 = ((row.available.micros - row.reserved.micros : ℤ) : ℚ) := by
    rw [hm, sub_mul, Numeric.toDecimal_mul, Numeric.toDecimal_mul]
    push_cast
    rfl
  have hbound : |row.available.micros - row.reserved.micros| < 10 ^ 14 := by
    have hnonneg := Numeric.toDecimal_nonneg_iff.1 h.nonneg
    have hle := Numeric.toDecimal_le_iff.1 h.le
    have havailable := (abs_lt.1 row.available.bounded).2
    rw [abs_of_nonneg (by omega)]
    omega
  -- A double has digits enough for every balance of the column.
  have hround := roundHalfAway_toBinary64 hscaled hbound
  have hfits : Numeric.Fits (toBinary64 m.amount) := by
    rw [Numeric.Fits, hround]
    exact hbound
  rcases Numeric.exists_store_of_fits hfits with ⟨n, hn⟩
  refine ⟨n, hn, ?_⟩
  have hmicros : n.micros = row.available.micros - row.reserved.micros := by
    rw [Numeric.micros_of_store hn, hround]
  have hback : n.toDecimal * 10 ^ 6 = m.amount * 10 ^ 6 := by
    rw [Numeric.toDecimal_mul, hmicros, hscaled]
  linarith

end AuthServicer
end Backend
end OpenRouter
