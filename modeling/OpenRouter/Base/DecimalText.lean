import Mathlib.Tactic.Ring
import OpenRouter.Base.Json

/-!
# DecimalText — decimals as they are written

A finite decimal is a sign, a coefficient and an exponent.  `Decimal.text` writes it with a point
where its exponent is small and negative, and in scientific notation otherwise; `Decimal.ofText`
reads either.  Nothing is lost on the way, trailing zeros and the sign of zero included:
`ofText_text`.
-/

namespace OpenRouter
namespace Base

/-! ## Digits -/

/-- The number that decimal digits are. -/
def digitsNat (ds : List Char) : ℕ :=
  ds.foldl (fun n d => n * 10 + (d.toNat - 48)) 0

theorem digitsNat_append_singleton (ds : List Char) (c : Char) :
    digitsNat (ds ++ [c]) = digitsNat ds * 10 + (c.toNat - 48) := by
  rw [digitsNat, List.foldl_append, List.foldl_cons, List.foldl_nil, digitsNat]

theorem toNat_digitChar {d : ℕ} (h : d < 10) : (digitChar d).toNat - 48 = d := by
  revert h d
  decide

theorem digitsNat_natLiteral (n : ℕ) : digitsNat (natLiteral n) = n := by
  by_cases hn : n = 0
  · rw [hn]
    rfl
  · -- The first of `Nat.digits` is the last of the literal.
    have hdigits : ∀ ds : List ℕ, (∀ d ∈ ds, d < 10) →
        digitsNat (ds.reverse.map digitChar) = Nat.ofDigits 10 ds := by
      intro ds hds
      induction ds with
      | nil => rfl
      | cons d ds ih =>
          rcases List.forall_mem_cons.1 hds with ⟨hd, hrest⟩
          rw [List.reverse_cons, List.map_append, List.map_singleton, digitsNat_append_singleton,
            toNat_digitChar hd, ih hrest, Nat.ofDigits_cons]
          ring
    have hlt : ∀ d ∈ Nat.digits 10 n, d < 10 := fun d hd =>
      Nat.digits_lt_base (by decide) hd
    rw [natLiteral, if_neg hn, hdigits _ hlt, Nat.ofDigits_digits]

/-- Zeros in front do not count. -/
theorem digitsNat_zeros_append (n : ℕ) (ds : List Char) :
    digitsNat (List.replicate n '0' ++ ds) = digitsNat ds := by
  induction n with
  | zero => rfl
  | succ n ih =>
      rw [List.replicate_succ, List.cons_append]
      exact ih

theorem isDigit_natLiteral {n : ℕ} {c : Char} (h : c ∈ natLiteral n) : isDigit c = true :=
  (natLiteral_cases n).1 c h

theorem natLiteral_ne_nil (n : ℕ) : natLiteral n ≠ [] := by
  rcases (natLiteral_cases n).2 with h | ⟨c, ds, h, -⟩ <;> simp [h]

/-! ## Writing -/

/-- A finite decimal, which keeps its trailing zeros. -/
structure Decimal where
  negative : Bool
  coefficient : ℕ
  exponent : ℤ
  deriving DecidableEq

/-- `"%+d"`. -/
def signedLiteral (z : ℤ) : List Char :=
  (if z < 0 then '-' else '+') :: natLiteral z.natAbs

namespace Decimal

def signText (negative : Bool) : List Char :=
  if negative then ['-'] else []

/-- The number of digits in front of the point, were the exponent written out. -/
def leftdigits (d : Decimal) : ℤ :=
  d.exponent + (natLiteral d.coefficient).length

/-- The number of digits in front of the point in the text: one in scientific notation. -/
def dotplace (d : Decimal) : ℤ :=
  if d.exponent ≤ 0 ∧ -6 < d.leftdigits then d.leftdigits else 1

def intpart (d : Decimal) : List Char :=
  let int := natLiteral d.coefficient
  if d.dotplace ≤ 0 then ['0']
  else if int.length ≤ d.dotplace then
    int ++ List.replicate (d.dotplace - int.length).toNat '0'
  else int.take d.dotplace.toNat

def fracpart (d : Decimal) : List Char :=
  let int := natLiteral d.coefficient
  if d.dotplace ≤ 0 then '.' :: (List.replicate (-d.dotplace).toNat '0' ++ int)
  else if int.length ≤ d.dotplace then []
  else '.' :: int.drop d.dotplace.toNat

def exppart (d : Decimal) : List Char :=
  if d.leftdigits = d.dotplace then [] else 'E' :: signedLiteral (d.leftdigits - d.dotplace)

/-- `str`. -/
def text (d : Decimal) : List Char :=
  signText d.negative ++ (d.intpart ++ (d.fracpart ++ d.exppart))

/-! ## Reading -/

def readSign : List Char → Bool × List Char
  | '-' :: cs => (true, cs)
  | '+' :: cs => (false, cs)
  | cs => (false, cs)

/-- The digits behind a point, and what is behind them. -/
def readFraction : List Char → List Char × List Char
  | '.' :: cs => (cs.takeWhile isDigit, cs.dropWhile isDigit)
  | cs => ([], cs)

/-- An exponent up to the end of the text, or none. -/
def readExponent : List Char → Option ℤ
  | [] => some 0
  | c :: cs =>
      if c = 'E' ∨ c = 'e' then
        let ds := (readSign cs).2
        if ds ≠ [] ∧ ds.all isDigit = true then
          some (if (readSign cs).1 then -(digitsNat ds : ℤ) else digitsNat ds)
        else none
      else none

/-- The finite decimal of a text without white space and underscores. -/
def ofText (cs : List Char) : Option Decimal :=
  let body := (readSign cs).2
  let int := body.takeWhile isDigit
  let fraction := readFraction (body.dropWhile isDigit)
  if int = [] ∧ fraction.1 = [] then none
  else
    (readExponent fraction.2).map fun e =>
      { negative := (readSign cs).1
        coefficient := digitsNat (int ++ fraction.1)
        exponent := e - fraction.1.length }

/-! ## The round trip -/

theorem takeWhile_digits {ds rest : List Char} (hds : ∀ c ∈ ds, isDigit c = true)
    (hrest : ∀ c cs, rest = c :: cs → isDigit c = false) :
    (ds ++ rest).takeWhile isDigit = ds ∧ (ds ++ rest).dropWhile isDigit = rest := by
  have hstop : rest.takeWhile isDigit = [] ∧ rest.dropWhile isDigit = rest := by
    cases rest with
    | nil => exact ⟨rfl, rfl⟩
    | cons c cs => simp [hrest c cs rfl]
  rw [List.takeWhile_append_of_pos hds, List.dropWhile_append_of_pos hds, hstop.1, hstop.2]
  exact ⟨List.append_nil ds, rfl⟩

/-- The text of an exponent that may be left out. -/
def exponentText : Option ℤ → List Char
  | none => []
  | some z => 'E' :: signedLiteral z

/-- The text of a fraction that may be empty. -/
def fractionText (frac : List Char) : List Char :=
  if frac = [] then [] else '.' :: frac

theorem readSign_signedLiteral (z : ℤ) :
    readSign (signedLiteral z) = (decide (z < 0), natLiteral z.natAbs) := by
  by_cases h : z < 0 <;> simp [signedLiteral, readSign, h]

theorem readExponent_exponentText (e : Option ℤ) :
    readExponent (exponentText e) = some (e.getD 0) := by
  cases e with
  | none => rfl
  | some z =>
      have hdigits : (natLiteral z.natAbs).all isDigit = true :=
        List.all_eq_true.2 fun c hc => isDigit_natLiteral hc
      have hread : natLiteral z.natAbs ≠ [] ∧ (natLiteral z.natAbs).all isDigit = true :=
        ⟨natLiteral_ne_nil _, hdigits⟩
      rw [exponentText, readExponent, if_pos (.inl rfl)]
      simp only [readSign_signedLiteral, if_pos hread, digitsNat_natLiteral, decide_eq_true_eq,
        Option.getD_some, Option.some.injEq]
      split <;> omega

theorem readFraction_fractionText {frac : List Char} (hfrac : ∀ c ∈ frac, isDigit c = true)
    (e : Option ℤ) :
    readFraction (fractionText frac ++ exponentText e) = (frac, exponentText e) := by
  have hstop : ∀ c cs, exponentText e = c :: cs → isDigit c = false := by
    intro c cs h
    cases e with
    | none => cases h
    | some z =>
        cases h
        decide
  unfold fractionText
  split
  · rename_i hnil
    subst hnil
    cases e with
    | none => rfl
    | some z => rfl
  · rcases takeWhile_digits hfrac hstop with ⟨htake, hdrop⟩
    rw [List.cons_append, readFraction, htake, hdrop]

/-- Digits in front of the point, and behind it, and an exponent. -/
theorem ofText_parts (negative : Bool) {int frac : List Char} (hint : ∀ c ∈ int, isDigit c = true)
    (hne : int ≠ []) (hfrac : ∀ c ∈ frac, isDigit c = true) (e : Option ℤ) :
    ofText (signText negative ++ (int ++ (fractionText frac ++ exponentText e))) =
      some
        { negative := negative
          coefficient := digitsNat (int ++ frac)
          exponent := e.getD 0 - frac.length } := by
  -- A digit is no sign, so without one nothing is taken for it.
  have hsign : readSign (signText negative ++ (int ++ (fractionText frac ++ exponentText e))) =
      (negative, int ++ (fractionText frac ++ exponentText e)) := by
    cases negative with
    | true => rfl
    | false =>
        cases int with
        | nil => exact absurd rfl hne
        | cons c cs =>
            have hdigit := hint c List.mem_cons_self
            have hminus : c ≠ '-' := by
              rintro rfl
              exact absurd hdigit (by decide)
            have hplus : c ≠ '+' := by
              rintro rfl
              exact absurd hdigit (by decide)
            simp [signText, readSign, hminus, hplus]
  have hstop : ∀ c cs, fractionText frac ++ exponentText e = c :: cs → isDigit c = false := by
    intro c cs h
    unfold fractionText at h
    split at h
    · cases e with
      | none => cases h
      | some z =>
          cases h
          decide
    · cases h
      decide
  rcases takeWhile_digits hint hstop with ⟨htake, hdrop⟩
  have hdigits : ¬ (int = [] ∧ frac = []) := fun h => hne h.1
  simp only [ofText, hsign, htake, hdrop, readFraction_fractionText hfrac, if_neg hdigits,
    readExponent_exponentText, Option.map_some]

/-- What `text` puts together. -/
structure HasParts (d : Decimal) (int frac : List Char) (e : Option ℤ) : Prop where
  intpart_eq : d.intpart = int
  fracpart_eq : d.fracpart = fractionText frac
  exppart_eq : d.exppart = exponentText e
  int_ne_nil : int ≠ []
  isDigit_int : ∀ c ∈ int, isDigit c = true
  isDigit_frac : ∀ c ∈ frac, isDigit c = true
  coefficient_eq : digitsNat (int ++ frac) = d.coefficient
  exponent_eq : e.getD 0 - frac.length = d.exponent

theorem length_natLiteral_pos (n : ℕ) : 0 < (natLiteral n).length :=
  List.length_pos_of_ne_nil (natLiteral_ne_nil n)

theorem isDigit_zeros {n : ℕ} {c : Char} (h : c ∈ List.replicate n '0') : isDigit c = true := by
  cases List.eq_of_mem_replicate h
  rfl

/-- A small decimal: zeros between the point and the coefficient. -/
theorem hasParts_of_nonpos {d : Decimal} (h : d.dotplace ≤ 0) :
    HasParts d ['0'] (List.replicate (-d.dotplace).toNat '0' ++ natLiteral d.coefficient) none := by
  -- Scientific notation has a digit in front of its point, so this is not it.
  have hplace : d.dotplace = d.leftdigits := by
    unfold dotplace at h ⊢
    split at h
    · rw [if_pos (by assumption)]
    · omega
  have hne : List.replicate (-d.dotplace).toNat '0' ++ natLiteral d.coefficient ≠ [] :=
    List.append_ne_nil_of_right_ne_nil _ (natLiteral_ne_nil _)
  refine
    { intpart_eq := ?_, fracpart_eq := ?_, exppart_eq := ?_, int_ne_nil := List.cons_ne_nil _ _,
      isDigit_int := ?_, isDigit_frac := ?_, coefficient_eq := ?_, exponent_eq := ?_ }
  · rw [intpart, if_pos h]
  · rw [fracpart, if_pos h, fractionText, if_neg hne]
  · rw [exppart, if_pos hplace.symm]
    rfl
  · intro c hc
    cases List.mem_singleton.1 hc
    rfl
  · intro c hc
    rcases List.mem_append.1 hc with hzero | hdigit
    · exact isDigit_zeros hzero
    · exact isDigit_natLiteral hdigit
  · have hzeros := digitsNat_zeros_append 1
      (List.replicate (-d.dotplace).toNat '0' ++ natLiteral d.coefficient)
    calc
      digitsNat (['0'] ++ (List.replicate (-d.dotplace).toNat '0' ++ natLiteral d.coefficient))
          = digitsNat (List.replicate (-d.dotplace).toNat '0' ++ natLiteral d.coefficient) := hzeros
      _ = d.coefficient := by rw [digitsNat_zeros_append, digitsNat_natLiteral]
  · have hlength : ((List.replicate (-d.dotplace).toNat '0' ++ natLiteral d.coefficient).length : ℤ)
        = -d.dotplace + (natLiteral d.coefficient).length := by
      rw [List.length_append, List.length_replicate]
      omega
    rw [hlength, hplace, leftdigits, Option.getD_none]
    omega

/-- The exponent is written where the point is not at its place. -/
theorem exppart_eq_exponentText (d : Decimal) :
    d.exppart =
      exponentText
        (if d.leftdigits = d.dotplace then none else some (d.leftdigits - d.dotplace)) := by
  unfold exppart
  split <;> rfl

/-- Otherwise the point is between two digits, or behind them all. -/
theorem hasParts_of_pos {d : Decimal} (h : 0 < d.dotplace) :
    HasParts d ((natLiteral d.coefficient).take d.dotplace.toNat)
      ((natLiteral d.coefficient).drop d.dotplace.toNat)
      (if d.leftdigits = d.dotplace then none else some (d.leftdigits - d.dotplace)) := by
  have hlength := length_natLiteral_pos d.coefficient
  -- No zeros follow the coefficient: the exponent is written instead.
  have hplace : d.dotplace ≤ (natLiteral d.coefficient).length := by
    unfold dotplace
    split
    · rename_i hplain
      have hexponent := hplain.1
      unfold leftdigits
      omega
    · omega
  have hnonpos : ¬ d.dotplace ≤ 0 := not_le.2 h
  have hvalue : (if d.leftdigits = d.dotplace then none
      else some (d.leftdigits - d.dotplace) : Option ℤ).getD 0 = d.leftdigits - d.dotplace := by
    split
    · rename_i heq
      rw [heq, sub_self]
      rfl
    · rfl
  refine
    { intpart_eq := ?_, fracpart_eq := ?_, exppart_eq := exppart_eq_exponentText d,
      int_ne_nil := ?_, isDigit_int := fun c hc => isDigit_natLiteral (List.mem_of_mem_take hc),
      isDigit_frac := fun c hc => isDigit_natLiteral (List.mem_of_mem_drop hc),
      coefficient_eq := ?_, exponent_eq := ?_ }
  · rw [intpart, if_neg hnonpos]
    split
    · rename_i hall
      have heq : d.dotplace = (natLiteral d.coefficient).length := le_antisymm hplace hall
      rw [heq, sub_self, Int.toNat_zero, List.replicate_zero, List.append_nil, Int.toNat_natCast,
        List.take_length]
    · rfl
  · rw [fracpart, if_neg hnonpos, fractionText]
    by_cases hall : ((natLiteral d.coefficient).length : ℤ) ≤ d.dotplace
    · have hdrop : (natLiteral d.coefficient).drop d.dotplace.toNat = [] :=
        List.drop_eq_nil_of_le (by omega)
      rw [if_pos hall, if_pos hdrop]
    · have hdrop : (natLiteral d.coefficient).drop d.dotplace.toNat ≠ [] := by
        rw [ne_eq, List.drop_eq_nil_iff]
        omega
      rw [if_neg hall, if_neg hdrop]
  · intro hnil
    rw [List.take_eq_nil_iff] at hnil
    rcases hnil with hzero | hnone
    · omega
    · exact natLiteral_ne_nil _ hnone
  · rw [List.take_append_drop, digitsNat_natLiteral]
  · rw [hvalue, List.length_drop, leftdigits]
    omega

/-- What is written is read back. -/
theorem ofText_text (d : Decimal) : ofText d.text = some d := by
  have hparts : ∃ int frac e, HasParts d int frac e := by
    rcases le_or_gt d.dotplace 0 with h | h
    · exact ⟨_, _, _, hasParts_of_nonpos h⟩
    · exact ⟨_, _, _, hasParts_of_pos h⟩
  rcases hparts with ⟨int, frac, e, h⟩
  rw [text, h.intpart_eq, h.fracpart_eq, h.exppart_eq,
    ofText_parts d.negative h.isDigit_int h.int_ne_nil h.isDigit_frac e, h.coefficient_eq,
    h.exponent_eq]

end Decimal

end Base
end OpenRouter
