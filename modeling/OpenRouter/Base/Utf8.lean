import Mathlib.Data.List.Basic
import Mathlib.Tactic.Common

/-!
# Utf8 — texts and their bytes

`encode` is UTF-8.  `decode` reads any bytes: where no character begins, one byte becomes the
replacement character.  `decode_encode` is the round trip.
-/

namespace OpenRouter
namespace Base

abbrev Bytes := List UInt8

def encode (cs : List Char) : Bytes :=
  cs.flatMap String.utf8EncodeChar

def bytesOf (s : String) : Bytes :=
  encode s.toList

/-- The character that begins at the head of the bytes. -/
def decodeRune (bs : Bytes) : Option Char :=
  bs.toByteArray.utf8DecodeChar? 0

/-- The characters behind the first `skip` bytes. -/
def decodeFrom : ℕ → Bytes → List Char
  | _, [] => []
  | skip + 1, _ :: bs => decodeFrom skip bs
  | 0, b :: bs =>
      match decodeRune (b :: bs) with
      | some c => c :: decodeFrom (c.utf8Size - 1) bs
      | none => '\uFFFD' :: decodeFrom 0 bs

def decode (bs : Bytes) : List Char :=
  decodeFrom 0 bs

theorem decodeRune_encodeChar (c : Char) (bs : Bytes) :
    decodeRune (String.utf8EncodeChar c ++ bs) = some c := by
  rw [decodeRune, List.toByteArray_append]
  exact ByteArray.utf8DecodeChar?_utf8EncodeChar_append

/-- A character is read off its own bytes. -/
theorem exists_of_decodeRune {bs : Bytes} {c : Char} (h : decodeRune bs = some c) :
    ∃ rest, bs = String.utf8EncodeChar c ++ rest := by
  rcases ByteArray.exists_of_utf8DecodeChar?_eq_some h with ⟨rest, hrest⟩
  refine ⟨rest.data.toList, ?_⟩
  have hdata := congrArg (fun b => b.data.toList) hrest
  simpa [List.utf8Encode] using hdata

theorem decodeFrom_append (skipped bs : Bytes) :
    decodeFrom skipped.length (skipped ++ bs) = decodeFrom 0 bs := by
  induction skipped with
  | nil => rfl
  | cons b skipped ih => simpa [decodeFrom] using ih

/-- Behind a character that was read, reading goes on. -/
theorem decode_of_rune {b : UInt8} {bs rest : Bytes} {c : Char}
    (hrune : decodeRune (b :: bs) = some c) (hbytes : b :: bs = String.utf8EncodeChar c ++ rest) :
    decode (b :: bs) = c :: decode rest := by
  have hlen : (String.utf8EncodeChar c).length = c.utf8Size := String.length_utf8EncodeChar c
  rw [decode, decodeFrom, hrune]
  cases hchar : String.utf8EncodeChar c with
  | nil =>
      have hpos := c.utf8Size_pos
      rw [hchar, List.length_nil] at hlen
      omega
  | cons b' bs' =>
      rw [hchar, List.cons_append, List.cons.injEq] at hbytes
      have hskip : c.utf8Size - 1 = bs'.length := by
        simp [← hlen, hchar]
      simp only [hskip, hbytes.2, decodeFrom_append]
      rfl

theorem decode_encode (cs : List Char) : decode (encode cs) = cs := by
  induction cs with
  | nil => rfl
  | cons c cs ih =>
      have htext : encode (c :: cs) = String.utf8EncodeChar c ++ encode cs := by
        simp [encode]
      have hrune : decodeRune (encode (c :: cs)) = some c := by
        rw [htext]
        exact decodeRune_encodeChar c (encode cs)
      cases hbytes : encode (c :: cs) with
      | nil =>
          rw [hbytes] at hrune
          cases hrune
      | cons b bs =>
          rw [hbytes] at hrune htext
          rw [decode_of_rune hrune htext, ih]

end Base
end OpenRouter
