import OpenRouter.Base.Json
import OpenRouter.Base.TextDecoder

/-!
# JsValues — JSON values as JavaScript handles them

What the programs in JavaScript do with a body that is read as a whole and with the values of
`JSON.parse`: optional chaining, truthiness, and the conversions that the runtime makes.
-/

namespace OpenRouter
namespace Base

/-- What JavaScript makes of values that a client hands to it. -/
structure JsRuntime where
  /-- `String(v)` of a value that is no string. -/
  text : Json → String
  isZero : Number → Bool
  /-- `Number(s)` as it is printed, where it is finite. -/
  finiteNumber : String → Option String
  /-- `Number.parseInt(s, 10)` as it is printed, where it is finite. -/
  finiteInt : String → Option String
  /-- The message of what writing out a value that is no string throws, where it is written out. -/
  unwritable : Json → Option String := fun _ => none

/-- The text of a whole body; a character that the end cuts off is the replacement character. -/
def utf8Text (bs : Bytes) : List Char :=
  let (cs, d) := ({} : TextDecoder).decode bs
  if d.needed = 0 then cs else cs ++ ['\uFFFD']

/-- `v?.name` on a value of `JSON.parse`, for a name that no prototype has. -/
def property (name : String) : Option Json → Option Json
  | some (.obj ms) => lastMember ms name
  | _ => none

def truthy (rt : JsRuntime) : Option Json → Bool
  | none | some .null | some (.bool false) => false
  | some (.str s) => s ≠ ""
  | some (.num n) => !rt.isZero n
  | some _ => true

/-- `String(v)`. -/
def JsRuntime.stringOf (rt : JsRuntime) : Json → String
  | .str s => s
  | v => rt.text v

/-- A text in UTF-8 is read back, unless it starts with a byte order mark. -/
theorem utf8Text_encode {c : Char} (hc : c ≠ '\uFEFF') (cs : List Char) :
    utf8Text (encode (c :: cs)) = c :: cs := by
  simp [utf8Text, TextDecoder.decode_encode_start hc]

end Base
end OpenRouter
