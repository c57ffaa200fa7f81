import Mathlib.Data.List.TakeWhile
import OpenRouter.Base.Utf8

/-!
# Base64 — bytes as text

The encoding of RFC 4648 with padding, and a reader that is as lenient as the one of `Buffer`: the
URL-safe alphabet is read as well, anything else is passed over, and the first `=` ends the text.
-/

namespace OpenRouter
namespace Base
namespace Base64

/-! ## Digits -/

def digit (n : ℕ) : Char :=
  if n < 26 then Char.ofNat (65 + n)
  else if n < 52 then Char.ofNat (71 + n)
  else if n < 62 then Char.ofNat (n - 4)
  else if n = 62 then '+'
  else '/'

def value (c : Char) : Option ℕ :=
  if 'A' ≤ c ∧ c ≤ 'Z' then some (c.toNat - 65)
  else if 'a' ≤ c ∧ c ≤ 'z' then some (c.toNat - 71)
  else if '0' ≤ c ∧ c ≤ '9' then some (c.toNat + 4)
  else if c = '+' ∨ c = '-' then some 62
  else if c = '/' ∨ c = '_' then some 63
  else none

theorem value_digit : ∀ n < 64, value (digit n) = some n := by decide

theorem digit_ne_pad : ∀ n < 64, digit n ≠ '=' := by decide

/-! ## Groups -/

/-- Three bytes are four digits; what is left over is filled up with zero bits. -/
def toDigits : Bytes → List ℕ
  | [] => []
  | [a] => [a.toNat / 4, a.toNat % 4 * 16]
  | [a, b] => [a.toNat / 4, a.toNat % 4 * 16 + b.toNat / 16, b.toNat % 16 * 4]
  | a :: b :: c :: rest =>
      a.toNat / 4 :: (a.toNat % 4 * 16 + b.toNat / 16) :: (b.toNat % 16 * 4 + c.toNat / 64) ::
        c.toNat % 64 :: toDigits rest

/-- Bits that do not make up a byte are dropped. -/
def ofDigits : List ℕ → Bytes
  | w :: x :: y :: z :: rest =>
      .ofNat (w * 4 + x / 16) :: .ofNat (x % 16 * 16 + y / 4) :: .ofNat (y % 4 * 64 + z) ::
        ofDigits rest
  | [w, x, y] => [.ofNat (w * 4 + x / 16), .ofNat (x % 16 * 16 + y / 4)]
  | [w, x] => [.ofNat (w * 4 + x / 16)]
  | _ => []

theorem lt_of_mem_toDigits {bs : Bytes} : ∀ n ∈ toDigits bs, n < 64 := by
  fun_induction toDigits bs with
  | case1 => simp
  | case2 a =>
      have ha := a.toNat_lt
      simp only [List.forall_mem_cons]
      exact ⟨by omega, by omega, by simp⟩
  | case3 a b =>
      have ha := a.toNat_lt
      have hb := b.toNat_lt
      simp only [List.forall_mem_cons]
      exact ⟨by omega, by omega, by omega, by simp⟩
  | case4 a b c rest ih =>
      have ha := a.toNat_lt
      have hb := b.toNat_lt
      have hc := c.toNat_lt
      simp only [List.forall_mem_cons]
      exact ⟨by omega, by omega, by omega, by omega, ih⟩

/-- A byte from its bits. -/
theorem ofNat_eq {a : UInt8} {n : ℕ} (h : n = a.toNat) : UInt8.ofNat n = a := by
  rw [h, UInt8.ofNat_toNat]

theorem ofDigits_toDigits (bs : Bytes) : ofDigits (toDigits bs) = bs := by
  fun_induction toDigits bs with
  | case1 => rfl
  | case2 a =>
      have ha := a.toNat_lt
      rw [ofDigits, ofNat_eq (a := a) (by omega)]
  | case3 a b =>
      have ha := a.toNat_lt
      have hb := b.toNat_lt
      rw [ofDigits, ofNat_eq (a := a) (by omega), ofNat_eq (a := b) (by omega)]
  | case4 a b c rest ih =>
      have ha := a.toNat_lt
      have hb := b.toNat_lt
      have hc := c.toNat_lt
      rw [ofDigits, ofNat_eq (a := a) (by omega), ofNat_eq (a := b) (by omega),
        ofNat_eq (a := c) (by omega), ih]

/-! ## Texts -/

def encode (bs : Bytes) : List Char :=
  (toDigits bs).map digit ++ List.replicate ((3 - bs.length % 3) % 3) '='

def decode (cs : List Char) : Bytes :=
  ofDigits ((cs.takeWhile (· ≠ '=')).filterMap value)

theorem filterMap_value {ns : List ℕ} (h : ∀ n ∈ ns, n < 64) :
    (ns.map digit).filterMap value = ns := by
  rw [List.filterMap_map]
  calc
    ns.filterMap (value ∘ digit)
        = ns.filterMap some := List.filterMap_congr fun n hn => value_digit n (h n hn)
    _ = ns := List.filterMap_some

theorem decode_encode (bs : Bytes) : decode (encode bs) = bs := by
  have hdigits : ∀ c ∈ (toDigits bs).map digit, decide (c ≠ '=') = true := by
    intro c hc
    rcases List.mem_map.1 hc with ⟨n, hn, rfl⟩
    exact decide_eq_true (digit_ne_pad n (lt_of_mem_toDigits n hn))
  have hpad : (List.replicate ((3 - bs.length % 3) % 3) '=').takeWhile (· ≠ '=') = [] := by
    cases (3 - bs.length % 3) % 3 <;> rfl
  rw [decode, encode, List.takeWhile_append_of_pos hdigits, hpad, List.append_nil,
    filterMap_value fun n hn => lt_of_mem_toDigits n hn, ofDigits_toDigits]

example : encode (bytesOf "any") = "YW55".toList ∧ encode (bytesOf "an") = "YW4=".toList ∧
    decode "YW4=YQ".toList = bytesOf "an" := by decide

end Base64
end Base
end OpenRouter
