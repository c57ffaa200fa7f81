import OpenRouter.Gateway.Adapter

/-!
# Unmarshal — JSON bodies into the gateway's structs

`json.Unmarshal` on the types that the gateway declares.  Members are matched to fields by folded
name and decoded in the order of the text, each into what the ones before it left; `null` leaves a
field as it is.  `none` is an error, at which every caller gives up.
-/

namespace OpenRouter
namespace Gateway

open Base

/-! ## Field names -/

/-- `foldRune`; two runes outside ASCII fold into it. -/
def foldRune (c : Char) : Char :=
  if 'a' ≤ c ∧ c ≤ 'z' then Char.ofNat (c.toNat - 32)
  else if c = '\u017F' then 'S'
  else if c = '\u212A' then 'K'
  else c

/-- Whether a member named `key` is decoded into the field tagged `field`. -/
def isField (field key : String) : Bool :=
  key.toList.map foldRune == field.toList.map foldRune

/-! ## Values -/

/-- A value decoded into a field that holds `old`. -/
abbrev Decoder (α : Type) := α → Json → Option α

def decodeString : Decoder String
  | old, .null => some old
  | _, .str s => some s
  | _, _ => none

def decodeBool : Decoder Bool
  | old, .null => some old
  | _, .bool b => some b
  | _, _ => none

def digitsValue (cs : List Char) : ℕ :=
  cs.foldl (fun n c => n * 10 + (c.toNat - 48)) 0

/-- `strconv.ParseInt` in base ten with 64 bits; a literal with a fraction or an exponent is no
integer. -/
def parseInt64 (n : Number) : Option ℤ :=
  let digits := afterSign n.text
  let v : ℤ := if n.text.head? = some '-' then -(digitsValue digits : ℤ) else digitsValue digits
  if digits.all isDigit ∧ -2 ^ 63 ≤ v ∧ v < 2 ^ 63 then some v else none

def decodeInt : Decoder ℤ
  | old, .null => some old
  | _, .num n => parseInt64 n
  | _, _ => none

/-- A `float64` field is held as the literal it is printed as. -/
def decodeFloat (rt : Runtime) : Decoder Number
  | old, .null => some old
  | _, .num n => rt.float64 n
  | _, _ => none

/-- A struct; `set key` decodes a member into the field it matches, if there is one. -/
def decodeStruct {α : Type} (set : String → α → Json → Option α) : Decoder α
  | old, .null => some old
  | old, .obj ms => ms.foldlM (fun a m => set m.1 a m.2) old
  | _, _ => none

/-- A slice with what its array still holds behind its length. -/
structure Slice (α : Type) where
  slots : List α := []
  len : ℕ := 0

def Slice.toList {α : Type} (s : Slice α) : List α :=
  s.slots.take s.len

/-- Each element is decoded into the slot that is there, or into a zero value. -/
def decodeElems {α : Type} (zero : α) (decode : Decoder α) : List α → List Json → Option (List α)
  | slots, [] => some slots
  | slots, x :: xs => do
      let y ← decode (slots.headD zero) x
      let ys ← decodeElems zero decode slots.tail xs
      return y :: ys

def decodeSlice {α : Type} (zero : α) (decode : Decoder α) : Decoder (Slice α)
  | _, .null => some {}
  | _, .arr [] => some {}
  | old, .arr xs =>
      (decodeElems zero decode old.slots xs).map fun slots => { slots := slots, len := xs.length }
  | _, _ => none

/-- `json.Unmarshal` into a zero value. -/
def unmarshal {α : Type} (zero : α) (decoder : Decoder α) (body : Bytes) : Option α :=
  (parse (decode body)).bind (decoder zero)

/-! ## Marshalling -/

/-- `json.Marshal` of a value with this tree. -/
def marshal (j : Json) : Bytes :=
  encode j.render

/-- What is marshalled has the tree it was made from. -/
theorem parse_marshal (j : Json) : parse (decode (marshal j)) = some j := by
  rw [marshal, decode_encode, parse_render]

end Gateway
end OpenRouter
