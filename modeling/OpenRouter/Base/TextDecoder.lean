import OpenRouter.Base.Utf8

/-!
# TextDecoder — UTF-8 that arrives in pieces

`TextDecoder` is the streaming decoder of the Encoding Standard: the state between two bytes is
the part of a character read so far.  `decode_append` says that the cuts between the pieces do not
matter, and `decode_encode` that a text is read back.
-/

namespace OpenRouter
namespace Base

structure TextDecoder where
  codePoint : ℕ := 0
  /-- The continuation bytes still to come. -/
  needed : ℕ := 0
  lower : ℕ := 0x80
  upper : ℕ := 0xBF
  /-- Something has been read, so a byte order mark is a character like others. -/
  bomSeen : Bool := false

namespace TextDecoder

/-- A character of the output, with nothing pending behind it. -/
def emit (d : TextDecoder) (c : Char) : List Char × TextDecoder :=
  (if !d.bomSeen && c == '\uFEFF' then [] else [c], { bomSeen := true })

/-- The first byte of a character. -/
def lead (d : TextDecoder) (b : ℕ) : List Char × TextDecoder :=
  if b < 0x80 then d.emit (Char.ofNat b)
  else if 0xC2 ≤ b ∧ b ≤ 0xDF then
    ([], { codePoint := b - 0xC0, needed := 1, bomSeen := d.bomSeen })
  else if 0xE0 ≤ b ∧ b ≤ 0xEF then
    ([],
      { codePoint := b - 0xE0
        needed := 2
        lower := if b = 0xE0 then 0xA0 else 0x80
        upper := if b = 0xED then 0x9F else 0xBF
        bomSeen := d.bomSeen })
  else if 0xF0 ≤ b ∧ b ≤ 0xF4 then
    ([],
      { codePoint := b - 0xF0
        needed := 3
        lower := if b = 0xF0 then 0x90 else 0x80
        upper := if b = 0xF4 then 0x8F else 0xBF
        bomSeen := d.bomSeen })
  else d.emit '\uFFFD'

/-- One byte.  Where a character breaks off, its byte is read again as a first one. -/
def push (d : TextDecoder) (b : ℕ) : List Char × TextDecoder :=
  if d.needed = 0 then d.lead b
  else if d.lower ≤ b ∧ b ≤ d.upper then
    if d.needed = 1 then d.emit (Char.ofNat (d.codePoint * 64 + b % 64))
    else
      ([],
        { codePoint := d.codePoint * 64 + b % 64
          needed := d.needed - 1
          bomSeen := d.bomSeen })
  else
    let broken := d.emit '\uFFFD'
    let again := broken.2.lead b
    (broken.1 ++ again.1, again.2)

/-- `decoder.decode(bytes, { stream: true })`. -/
def decode (d : TextDecoder) : Bytes → List Char × TextDecoder
  | [] => ([], d)
  | b :: bs =>
      let first := d.push b.toNat
      let more := first.2.decode bs
      (first.1 ++ more.1, more.2)

theorem decode_append (d : TextDecoder) (as bs : Bytes) :
    d.decode (as ++ bs) =
      ((d.decode as).1 ++ ((d.decode as).2.decode bs).1, ((d.decode as).2.decode bs).2) := by
  induction as generalizing d with
  | nil => rfl
  | cons a as ih => simp only [List.cons_append, decode, ih, List.append_assoc]

theorem decode_cons_ofNat (d : TextDecoder) {n : ℕ} (hn : n < 256) (bs : Bytes) :
    d.decode (UInt8.ofNat n :: bs) =
      ((d.push n).1 ++ ((d.push n).2.decode bs).1, ((d.push n).2.decode bs).2) := by
  rw [decode, UInt8.toNat_ofNat_of_lt' hn]

/-- A byte that goes on, but does not end, the pending character. -/
theorem push_of_continues {d : TextDecoder} {b : ℕ} (hneeded : 1 < d.needed)
    (hlower : d.lower ≤ b) (hupper : b ≤ d.upper) :
    d.push b =
      ([],
        { codePoint := d.codePoint * 64 + b % 64
          needed := d.needed - 1
          bomSeen := d.bomSeen }) := by
  rw [push, if_neg (by omega), if_pos ⟨hlower, hupper⟩, if_neg (by omega)]

/-- The byte that ends the pending character. -/
theorem push_of_ends {d : TextDecoder} {b : ℕ} (hneeded : d.needed = 1)
    (hlower : d.lower ≤ b) (hupper : b ≤ d.upper) :
    d.push b = d.emit (Char.ofNat (d.codePoint * 64 + b % 64)) := by
  rw [push, if_neg (by omega), if_pos ⟨hlower, hupper⟩, if_pos hneeded]

theorem push_of_idle {d : TextDecoder} (hidle : d.needed = 0) (b : ℕ) : d.push b = d.lead b := by
  rw [push, if_pos hidle]

/-! ## Reading back -/

theorem emit_congr {d d' : TextDecoder} (h : d.bomSeen = d'.bomSeen) (c : Char) :
    d.emit c = d'.emit c := by
  simp only [emit, h]

section Lead

variable {d : TextDecoder} {b : ℕ}

theorem lead_of_two (hlower : 0xC2 ≤ b) (hupper : b ≤ 0xDF) :
    d.lead b = ([], { codePoint := b - 0xC0, needed := 1, bomSeen := d.bomSeen }) := by
  rw [lead, if_neg (by omega), if_pos ⟨hlower, hupper⟩]

theorem lead_of_three (hlower : 0xE0 ≤ b) (hupper : b ≤ 0xEF) :
    d.lead b =
      ([],
        { codePoint := b - 0xE0
          needed := 2
          lower := if b = 0xE0 then 0xA0 else 0x80
          upper := if b = 0xED then 0x9F else 0xBF
          bomSeen := d.bomSeen }) := by
  rw [lead, if_neg (by omega), if_neg (by omega), if_pos ⟨hlower, hupper⟩]

theorem lead_of_four (hlower : 0xF0 ≤ b) (hupper : b ≤ 0xF4) :
    d.lead b =
      ([],
        { codePoint := b - 0xF0
          needed := 3
          lower := if b = 0xF0 then 0x90 else 0x80
          upper := if b = 0xF4 then 0x8F else 0xBF
          bomSeen := d.bomSeen }) := by
  rw [lead, if_neg (by omega), if_neg (by omega), if_neg (by omega), if_pos ⟨hlower, hupper⟩]

end Lead

section Character

variable {d : TextDecoder} {a b c e : ℕ}

theorem decode_two (hidle : d.needed = 0) (ha : 0xC2 ≤ a) (ha' : a ≤ 0xDF) (hb : 0x80 ≤ b)
    (hb' : b ≤ 0xBF) :
    d.decode [UInt8.ofNat a, UInt8.ofNat b] =
      d.emit (Char.ofNat ((a - 0xC0) * 64 + b % 64)) := by
  rw [decode_cons_ofNat d (by omega), push_of_idle hidle, lead_of_two ha ha',
    decode_cons_ofNat _ (by omega), push_of_ends rfl hb hb']
  simp only [decode, List.append_nil, List.nil_append, Prod.eta]
  refine emit_congr ?_ _
  rfl

theorem decode_three (hidle : d.needed = 0) (ha : 0xE0 ≤ a) (ha' : a ≤ 0xEF)
    (hb : (if a = 0xE0 then 0xA0 else 0x80) ≤ b) (hb' : b ≤ if a = 0xED then 0x9F else 0xBF)
    (hbyte : b < 256) (hc : 0x80 ≤ c) (hc' : c ≤ 0xBF) :
    d.decode [UInt8.ofNat a, UInt8.ofNat b, UInt8.ofNat c] =
      d.emit (Char.ofNat (((a - 0xE0) * 64 + b % 64) * 64 + c % 64)) := by
  rw [decode_cons_ofNat d (by omega), push_of_idle hidle, lead_of_three ha ha',
    decode_cons_ofNat _ hbyte, push_of_continues Nat.one_lt_two hb hb',
    decode_cons_ofNat _ (by omega), push_of_ends rfl hc hc']
  simp only [decode, List.append_nil, List.nil_append, Prod.eta]
  refine emit_congr ?_ _
  rfl

theorem decode_four (hidle : d.needed = 0) (ha : 0xF0 ≤ a) (ha' : a ≤ 0xF4)
    (hb : (if a = 0xF0 then 0x90 else 0x80) ≤ b) (hb' : b ≤ if a = 0xF4 then 0x8F else 0xBF)
    (hbyte : b < 256) (hc : 0x80 ≤ c) (hc' : c ≤ 0xBF) (he : 0x80 ≤ e) (he' : e ≤ 0xBF) :
    d.decode [UInt8.ofNat a, UInt8.ofNat b, UInt8.ofNat c, UInt8.ofNat e] =
      d.emit (Char.ofNat ((((a - 0xF0) * 64 + b % 64) * 64 + c % 64) * 64 + e % 64)) := by
  rw [decode_cons_ofNat d (by omega), push_of_idle hidle, lead_of_four ha ha',
    decode_cons_ofNat _ hbyte, push_of_continues (show 1 < 3 by decide) hb hb',
    decode_cons_ofNat _ (by omega), push_of_continues Nat.one_lt_two hc hc',
    decode_cons_ofNat _ (by omega), push_of_ends rfl he he']
  simp only [decode, List.append_nil, List.nil_append, Prod.eta]
  refine emit_congr ?_ _
  rfl

end Character

theorem toNat_valid (c : Char) : c.toNat < 0xD800 ∨ 0xDFFF < c.toNat ∧ c.toNat < 0x110000 :=
  c.valid

/-- The bytes of a character are read as that character, by the number of its bytes. -/
theorem decode_encodeChar {d : TextDecoder} (hidle : d.needed = 0) (c : Char) :
    d.decode (String.utf8EncodeChar c) = d.emit c := by
  have hvalid := toNat_valid c
  have hv : c.val.toNat = c.toNat := rfl
  -- What the decoder adds up is the code point again.
  have hpoint : ∀ n, n = c.toNat → d.emit (Char.ofNat n) = d.emit c := by
    rintro n rfl
    rw [Char.ofNat_toNat]
  simp only [String.utf8EncodeChar, hv]
  split
  · rename_i hone
    rw [decode_cons_ofNat d (by omega), push_of_idle hidle, lead, if_pos (by omega),
      Char.ofNat_toNat]
    simp only [decode, List.append_nil]
  split
  · rename_i hone htwo
    rw [decode_two hidle (by omega) (by omega) (by omega) (by omega)]
    exact hpoint _ (by omega)
  split
  · rename_i hone htwo hthree
    rw [decode_three hidle (by omega) (by omega) (by split <;> omega) (by split <;> omega)
      (by omega) (by omega) (by omega)]
    exact hpoint _ (by omega)
  · rename_i hone htwo hthree
    rw [decode_four hidle (by omega) (by omega) (by split <;> omega) (by split <;> omega)
      (by omega) (by omega) (by omega) (by omega) (by omega)]
    exact hpoint _ (by omega)

/-- A text is read back, in the middle of a stream. -/
theorem decode_encode (cs : List Char) :
    decode { bomSeen := true } (encode cs) = (cs, { bomSeen := true }) := by
  induction cs with
  | nil => rfl
  | cons c cs ih =>
      have hemit : emit { bomSeen := true } c = ([c], { bomSeen := true }) := by
        simp [emit]
      rw [encode, List.flatMap_cons, decode_append, decode_encodeChar rfl, hemit]
      rw [encode] at ih
      rw [ih]
      rfl

/-- A text that does not begin with a byte order mark is read back as a whole. -/
theorem decode_encode_start {c : Char} (hc : c ≠ '\uFEFF') (cs : List Char) :
    decode {} (encode (c :: cs)) = (c :: cs, { bomSeen := true }) := by
  have hemit : emit {} c = ([c], { bomSeen := true }) := by
    simp [emit, hc]
  have hrest := decode_encode cs
  rw [encode] at hrest
  rw [encode, List.flatMap_cons, decode_append, decode_encodeChar rfl, hemit, hrest]
  rfl

end TextDecoder
end Base
end OpenRouter
