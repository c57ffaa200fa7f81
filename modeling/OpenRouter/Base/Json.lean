import Mathlib.Data.List.Basic
import Mathlib.Data.List.TakeWhile
import Mathlib.Data.Nat.Digits.Lemmas

/-!
# Json — trees, compact text, and the round trip

A `Json` tree keeps what a reader of the text can see: the order of members, duplicate keys, and
the literal of a number.  `render` writes the compact form with `<`, `>`, `&` and the two line
separators escaped; `parse` reads any form.

`parse_render` is the point: what is written is read back.  It is proved on one value in front of
any text that cannot continue a number (`parseValue_render`), by induction on the tree.
-/

namespace OpenRouter
namespace Base

/-! ## Number literals -/

def isDigit (c : Char) : Bool :=
  '0' ≤ c && c ≤ '9'

/-- The characters that can continue a number. -/
def isNumberChar (c : Char) : Bool :=
  isDigit c || c == '+' || c == '-' || c == '.' || c == 'e' || c == 'E'

/-- At least one digit; what follows the digits. -/
def afterDigits : List Char → Option (List Char)
  | c :: cs => if isDigit c then some (cs.dropWhile isDigit) else none
  | [] => none

def afterInt : List Char → Option (List Char)
  | '0' :: cs => some cs
  | cs => afterDigits cs

def afterFraction : List Char → Option (List Char)
  | '.' :: cs => afterDigits cs
  | cs => some cs

def afterExponent : List Char → Option (List Char)
  | c :: cs =>
      if c == 'e' || c == 'E' then
        match cs with
        | s :: ds => if s == '+' || s == '-' then afterDigits ds else afterDigits cs
        | [] => none
      else some (c :: cs)
  | [] => some []

def afterSign : List Char → List Char
  | '-' :: cs => cs
  | cs => cs

/-- The grammar of number literals. -/
def isNumber (cs : List Char) : Bool :=
  cs.all isNumberChar &&
    ((afterInt (afterSign cs)).bind afterFraction).bind afterExponent == some []

structure Number where
  text : List Char
  valid : isNumber text = true

/-! ## Trees -/

inductive Json
  | null
  | bool (b : Bool)
  | num (n : Number)
  | str (s : String)
  | arr (xs : List Json)
  | obj (ms : List (String × Json))

/-- The value of a member; of several with one name the last counts. -/
def lastMember (ms : List (String × Json)) (name : String) : Option Json :=
  (ms.reverse.find? fun m => m.1 == name).map Prod.snd

/-! ## Writing -/

def hexDigit (n : ℕ) : Char :=
  if n < 10 then Char.ofNat (48 + n) else Char.ofNat (87 + n)

/-- `\u` and four hexadecimal digits. -/
def unicodeEscape (n : ℕ) : List Char :=
  ['\\', 'u', hexDigit (n / 4096 % 16), hexDigit (n / 256 % 16), hexDigit (n / 16 % 16),
    hexDigit (n % 16)]

/-- The characters with an escape of their own, and the letter of it. -/
def shortEscape (c : Char) : Option Char :=
  if c = '"' then some '"'
  else if c = '\\' then some '\\'
  else if c = '\x08' then some 'b'
  else if c = '\x0c' then some 'f'
  else if c = '\n' then some 'n'
  else if c = '\r' then some 'r'
  else if c = '\t' then some 't'
  else none

/-- The other characters that are not written as they are. -/
def needsUnicodeEscape (c : Char) : Bool :=
  c.toNat < 32 || c == '<' || c == '>' || c == '&' || c.toNat == 0x2028 || c.toNat == 0x2029

def renderChar (c : Char) : List Char :=
  match shortEscape c with
  | some e => ['\\', e]
  | none => if needsUnicodeEscape c then unicodeEscape c.toNat else [c]

def renderString (s : String) : List Char :=
  '"' :: (s.toList.flatMap renderChar ++ ['"'])

mutual

def Json.render : Json → List Char
  | .null => ['n', 'u', 'l', 'l']
  | .bool true => ['t', 'r', 'u', 'e']
  | .bool false => ['f', 'a', 'l', 's', 'e']
  | .num n => n.text
  | .str s => renderString s
  | .arr xs => '[' :: renderElems xs
  | .obj ms => '{' :: renderMembers ms

/-- The elements and the closing bracket. -/
def renderElems : List Json → List Char
  | [] => [']']
  | [x] => x.render ++ [']']
  | x :: y :: xs => x.render ++ ',' :: renderElems (y :: xs)

/-- The members and the closing brace. -/
def renderMembers : List (String × Json) → List Char
  | [] => ['\x7d']
  | [(k, v)] => renderString k ++ ':' :: (v.render ++ ['\x7d'])
  | (k, v) :: m :: ms => renderString k ++ ':' :: (v.render ++ ',' :: renderMembers (m :: ms))

end

/-! ## Reading -/

def isSpace (c : Char) : Bool :=
  c == ' ' || c == '\t' || c == '\n' || c == '\r'

def skipSpace (cs : List Char) : List Char :=
  cs.dropWhile isSpace

def hexValue (c : Char) : Option ℕ :=
  if isDigit c then some (c.toNat - 48)
  else if 'a' ≤ c && c ≤ 'f' then some (c.toNat - 87)
  else if 'A' ≤ c && c ≤ 'F' then some (c.toNat - 55)
  else none

def hexValue4 (a b c d : Char) : Option ℕ := do
  let w ← hexValue a
  let x ← hexValue b
  let y ← hexValue c
  let z ← hexValue d
  return w * 4096 + x * 256 + y * 16 + z

def shortUnescape (e : Char) : Option Char :=
  if e = '"' then some '"'
  else if e = '\\' then some '\\'
  else if e = '/' then some '/'
  else if e = 'b' then some '\x08'
  else if e = 'f' then some '\x0c'
  else if e = 'n' then some '\n'
  else if e = 'r' then some '\r'
  else if e = 't' then some '\t'
  else none

/-- The units of a string up to its closing quote: characters, and the code units of `\u`. -/
def parseUnits : List Char → Option (List (Char ⊕ ℕ) × List Char)
  | [] => none
  | '"' :: cs => some ([], cs)
  | '\\' :: 'u' :: a :: b :: c :: d :: cs =>
      match hexValue4 a b c d, parseUnits cs with
      | some n, some (us, rest) => some (.inr n :: us, rest)
      | _, _ => none
  | '\\' :: e :: cs =>
      match shortUnescape e, parseUnits cs with
      | some c, some (us, rest) => some (.inl c :: us, rest)
      | _, _ => none
  | c :: cs =>
      if c.toNat < 32 then none
      else
        match parseUnits cs with
        | some (us, rest) => some (.inl c :: us, rest)
        | none => none

def isSurrogate (n : ℕ) : Bool :=
  0xD800 ≤ n && n ≤ 0xDFFF

/-- Pairs of surrogates are one character, lone ones the replacement character. -/
def combineUnits : List (Char ⊕ ℕ) → List Char
  | [] => []
  | .inl c :: us => c :: combineUnits us
  | .inr n :: .inr m :: us =>
      if 0xD800 ≤ n && n ≤ 0xDBFF && 0xDC00 ≤ m && m ≤ 0xDFFF then
        Char.ofNat (0x10000 + (n - 0xD800) * 1024 + (m - 0xDC00)) :: combineUnits us
      else
        (if isSurrogate n then '\uFFFD' else Char.ofNat n) :: combineUnits (.inr m :: us)
  | .inr n :: us => (if isSurrogate n then '\uFFFD' else Char.ofNat n) :: combineUnits us

/-- A string, from behind its opening quote. -/
def parseString (cs : List Char) : Option (String × List Char) :=
  (parseUnits cs).map fun p => (String.ofList (combineUnits p.1), p.2)

def parseNumber (cs : List Char) : Option (Json × List Char) :=
  if h : isNumber (cs.takeWhile isNumberChar) = true then
    some (.num { text := cs.takeWhile isNumberChar, valid := h }, cs.dropWhile isNumberChar)
  else
    none

mutual

/-- One value; `fuel` bounds the number of nodes. -/
def parseValue : ℕ → List Char → Option (Json × List Char)
  | 0, _ => none
  | fuel + 1, cs =>
      match skipSpace cs with
      | 'n' :: 'u' :: 'l' :: 'l' :: rest => some (.null, rest)
      | 't' :: 'r' :: 'u' :: 'e' :: rest => some (.bool true, rest)
      | 'f' :: 'a' :: 'l' :: 's' :: 'e' :: rest => some (.bool false, rest)
      | '"' :: rest => (parseString rest).map fun p => (.str p.1, p.2)
      | '[' :: rest =>
          match skipSpace rest with
          | ']' :: rest' => some (.arr [], rest')
          | _ => (parseElems fuel rest).map fun p => (.arr p.1, p.2)
      | '\x7b' :: rest =>
          match skipSpace rest with
          | '\x7d' :: rest' => some (.obj [], rest')
          | _ => (parseMembers fuel rest).map fun p => (.obj p.1, p.2)
      | cs' => parseNumber cs'

/-- At least one element, up to the closing bracket. -/
def parseElems : ℕ → List Char → Option (List Json × List Char)
  | 0, _ => none
  | fuel + 1, cs =>
      match parseValue fuel cs with
      | none => none
      | some (x, rest) =>
          match skipSpace rest with
          | ',' :: rest' => (parseElems fuel rest').map fun p => (x :: p.1, p.2)
          | ']' :: rest' => some ([x], rest')
          | _ => none

/-- At least one member, up to the closing brace. -/
def parseMembers : ℕ → List Char → Option (List (String × Json) × List Char)
  | 0, _ => none
  | fuel + 1, cs =>
      match skipSpace cs with
      | '"' :: rest =>
          match parseString rest with
          | none => none
          | some (k, rest) =>
              match skipSpace rest with
              | ':' :: rest =>
                  match parseValue fuel rest with
                  | none => none
                  | some (v, rest) =>
                      match skipSpace rest with
                      | ',' :: rest' =>
                          (parseMembers fuel rest').map fun p => ((k, v) :: p.1, p.2)
                      | '\x7d' :: rest' => some ([(k, v)], rest')
                      | _ => none
              | _ => none
      | _ => none

end

/-- A whole text: one value and nothing but space behind it.  There is no limit to nesting, where
the decoder of Go stops at 10000 levels. -/
def parse (cs : List Char) : Option Json :=
  match parseValue cs.length cs with
  | some (j, rest) => if skipSpace rest = [] then some j else none
  | none => none

/-! ## The round trip of strings -/

/-- The unit that the reader makes of one written character. -/
def unitOf (c : Char) : Char ⊕ ℕ :=
  if shortEscape c = none ∧ needsUnicodeEscape c = true then .inr c.toNat else .inl c

theorem hexValue_hexDigit {n : ℕ} (h : n < 16) : hexValue (hexDigit n) = some n := by
  revert h n
  decide

theorem shortUnescape_of_shortEscape {c e : Char} (h : shortEscape c = some e) :
    shortUnescape e = some c ∧ e ≠ 'u' := by
  unfold shortEscape at h
  split_ifs at h with h₁ h₂ h₃ h₄ h₅ h₆ h₇ <;> cases h <;> subst_vars <;> decide

theorem toNat_lt_of_needsUnicodeEscape {c : Char} (h : needsUnicodeEscape c = true) :
    c.toNat < 0xD800 := by
  simp only [needsUnicodeEscape, Bool.or_eq_true, decide_eq_true_eq, beq_iff_eq] at h
  rcases h with ((((h | rfl) | rfl) | rfl) | h) | h
  · omega
  · decide
  · decide
  · decide
  · omega
  · omega

theorem parseUnits_unicodeEscape {n : ℕ} (hn : n < 65536) (cs : List Char) :
    parseUnits (unicodeEscape n ++ cs) =
      (parseUnits cs).map fun p => (.inr n :: p.1, p.2) := by
  have hvalue : hexValue4 (hexDigit (n / 4096 % 16)) (hexDigit (n / 256 % 16))
      (hexDigit (n / 16 % 16)) (hexDigit (n % 16)) = some n := by
    have hsum : n / 4096 % 16 * 4096 + n / 256 % 16 * 256 + n / 16 % 16 * 16 + n % 16 = n := by
      omega
    simp [hexValue4, hexValue_hexDigit (Nat.mod_lt _ (by decide : 0 < 16)), hsum]
  simp only [unicodeEscape, List.cons_append, List.nil_append, parseUnits, hvalue]
  cases parseUnits cs with
  | none => rfl
  | some p => rfl

/-- One written character is one unit. -/
theorem parseUnits_renderChar (c : Char) (cs : List Char) :
    parseUnits (renderChar c ++ cs) =
      (parseUnits cs).map fun p => (unitOf c :: p.1, p.2) := by
  cases hshort : shortEscape c with
  | some e =>
      rcases shortUnescape_of_shortEscape hshort with ⟨hback, hu⟩
      simp only [renderChar, hshort, unitOf, List.cons_append, List.nil_append]
      rw [parseUnits.eq_4 e cs (fun h => by simp_all), hback]
      cases parseUnits cs with
      | none => rfl
      | some p => rfl
  | none =>
      by_cases hesc : needsUnicodeEscape c = true
      · have hlt := toNat_lt_of_needsUnicodeEscape hesc
        simpa [renderChar, hshort, hesc, unitOf] using
          parseUnits_unicodeEscape (by omega : c.toNat < 65536) cs
      · have hquote : c ≠ '"' := by
          rintro rfl
          exact absurd hshort (by decide)
        have hslash : c ≠ '\\' := by
          rintro rfl
          exact absurd hshort (by decide)
        have hctl : ¬ c.toNat < 32 := by
          intro hlt
          exact hesc (by simp [needsUnicodeEscape, hlt])
        simp only [renderChar, hshort, hesc, unitOf]
        simp [parseUnits, hslash, hctl]
        cases parseUnits cs with
        | none => rfl
        | some p => rfl

theorem parseUnits_flatMap_renderChar (cs rest : List Char) :
    parseUnits (cs.flatMap renderChar ++ '"' :: rest) = some (cs.map unitOf, rest) := by
  induction cs with
  | nil => simp [parseUnits]
  | cons c cs ih =>
      calc
        parseUnits ((c :: cs).flatMap renderChar ++ '"' :: rest)
            = parseUnits (renderChar c ++ (cs.flatMap renderChar ++ '"' :: rest)) := by
              simp
        _ = some ((c :: cs).map unitOf, rest) := by
              rw [parseUnits_renderChar, ih]
              rfl

/-- A unit in front of any others is one character. -/
theorem combineUnits_unitOf (c : Char) (us : List (Char ⊕ ℕ)) :
    combineUnits (unitOf c :: us) = c :: combineUnits us := by
  unfold unitOf
  split
  · rename_i hesc
    -- No escaped character is a surrogate, so its unit does not pair with the next.
    have hlt := toNat_lt_of_needsUnicodeEscape hesc.2
    have hsur : isSurrogate c.toNat = false := by
      simp only [isSurrogate, Bool.and_eq_false_iff, decide_eq_false_iff_not]
      omega
    have hhigh : ¬ 0xD800 ≤ c.toNat := by
      omega
    cases us with
    | nil => simp [combineUnits, hsur]
    | cons u us =>
        cases u with
        | inl d => simp [combineUnits, hsur]
        | inr m => simp [combineUnits, hsur, hhigh]
  · simp [combineUnits]

theorem combineUnits_map_unitOf (cs : List Char) : combineUnits (cs.map unitOf) = cs := by
  induction cs with
  | nil => rfl
  | cons c cs ih => rw [List.map_cons, combineUnits_unitOf, ih]

theorem parseString_render (s : String) (rest : List Char) :
    parseString (s.toList.flatMap renderChar ++ '"' :: rest) = some (s, rest) := by
  simp [parseString, parseUnits_flatMap_renderChar, combineUnits_map_unitOf]

/-! ## The round trip of trees -/

/-- No character of a text that begins so continues a number. -/
def EndsNumber (rest : List Char) : Prop :=
  ∀ c cs, rest = c :: cs → isNumberChar c = false

theorem endsNumber_nil : EndsNumber [] := by
  intro c cs h
  cases h

theorem endsNumber_cons {c : Char} {cs : List Char} (h : isNumberChar c = false) :
    EndsNumber (c :: cs) := by
  rintro d ds ⟨⟩
  exact h

theorem isNumberChar_of_isNumber {cs : List Char} (h : isNumber cs = true) :
    ∀ c ∈ cs, isNumberChar c = true := by
  rw [isNumber, Bool.and_eq_true, List.all_eq_true] at h
  exact h.1

/-- A number literal begins with a digit or a minus sign. -/
theorem head_of_isNumber {cs : List Char} (h : isNumber cs = true) :
    ∃ c ds, cs = c :: ds ∧ (isDigit c = true ∨ c = '-') := by
  cases cs with
  | nil => exact absurd h (by decide)
  | cons c ds =>
      refine ⟨c, ds, rfl, ?_⟩
      by_contra hc
      rw [not_or] at hc
      have hsign : afterSign (c :: ds) = c :: ds := by
        simp [afterSign, hc.2]
      have hzero : c ≠ '0' := by
        rintro rfl
        exact hc.1 rfl
      have hint : afterInt (c :: ds) = none := by
        simp [afterInt, afterDigits, hzero, hc.1]
      simp [isNumber, hsign, hint] at h

theorem parseNumber_render (n : Number) {rest : List Char} (hrest : EndsNumber rest) :
    parseNumber (n.text ++ rest) = some (.num n, rest) := by
  have hall : ∀ c ∈ n.text, isNumberChar c = true := isNumberChar_of_isNumber n.valid
  have htake : rest.takeWhile isNumberChar = [] := by
    cases rest with
    | nil => rfl
    | cons c cs => simp [hrest c cs rfl]
  have hdrop : rest.dropWhile isNumberChar = rest := by
    cases rest with
    | nil => rfl
    | cons c cs => simp [hrest c cs rfl]
  -- The literal ends where the text behind it cannot continue it.
  have htext : (n.text ++ rest).takeWhile isNumberChar = n.text := by
    rw [List.takeWhile_append_of_pos hall, htake, List.append_nil]
  have hleft : (n.text ++ rest).dropWhile isNumberChar = rest := by
    rw [List.dropWhile_append_of_pos hall, hdrop]
  simp [parseNumber, htext, hleft, n.valid]

theorem skipSpace_cons {c : Char} (h : isSpace c = false) (cs : List Char) :
    skipSpace (c :: cs) = c :: cs := by
  simp [skipSpace, h]

/-- A written value begins with a character that is no space and closes no array. -/
theorem head_render (j : Json) :
    ∃ c cs, j.render = c :: cs ∧ isSpace c = false ∧ c ≠ ']' := by
  cases j with
  | null => exact ⟨_, _, by rw [Json.render], by decide, by decide⟩
  | bool b => cases b <;> exact ⟨_, _, by rw [Json.render], by decide, by decide⟩
  | num n =>
      rcases head_of_isNumber n.valid with ⟨c, cs, htext, hc⟩
      refine ⟨c, cs, by rw [Json.render, htext], ?_, ?_⟩
      · rcases hc with hc | rfl
        · by_contra hspace
          simp only [Bool.not_eq_false, isSpace, Bool.or_eq_true, beq_iff_eq] at hspace
          rcases hspace with ((rfl | rfl) | rfl) | rfl <;> exact absurd hc (by decide)
        · decide
      · rintro rfl
        rcases hc with hc | hc
        · exact absurd hc (by decide)
        · exact absurd hc (by decide)
  | str s => exact ⟨_, _, by rw [Json.render, renderString], by decide, by decide⟩
  | arr xs => exact ⟨_, _, by rw [Json.render], by decide, by decide⟩
  | obj ms => exact ⟨_, _, by rw [Json.render], by decide, by decide⟩

mutual

/-- The fuel that reading a written value takes. -/
def Json.size : Json → ℕ
  | .arr xs => 1 + sizeElems xs
  | .obj ms => 1 + sizeMembers ms
  | _ => 1

def sizeElems : List Json → ℕ
  | [] => 0
  | x :: xs => 1 + x.size + sizeElems xs

def sizeMembers : List (String × Json) → ℕ
  | [] => 0
  | (_, v) :: ms => 1 + v.size + sizeMembers ms

end

mutual

theorem size_le_length_render (j : Json) : j.size ≤ j.render.length := by
  cases j with
  | null => simp [Json.size, Json.render]
  | bool b => cases b <;> simp [Json.size, Json.render]
  | num n =>
      rcases head_of_isNumber n.valid with ⟨c, cs, htext, -⟩
      simp [Json.size, Json.render, htext]
  | str s => simp [Json.size, Json.render, renderString]
  | arr xs =>
      have hxs := sizeElems_le_length xs
      simp only [Json.size, Json.render, List.length_cons]
      omega
  | obj ms =>
      have hms := sizeMembers_le_length ms
      simp only [Json.size, Json.render, List.length_cons]
      omega

theorem sizeElems_le_length (xs : List Json) : sizeElems xs ≤ (renderElems xs).length := by
  match xs with
  | [] => simp [sizeElems]
  | [x] =>
      have hx := size_le_length_render x
      simp only [sizeElems, renderElems, List.length_append, List.length_singleton]
      omega
  | x :: y :: xs =>
      have hx := size_le_length_render x
      have hxs := sizeElems_le_length (y :: xs)
      rw [sizeElems, renderElems]
      simp only [List.length_append, List.length_cons]
      omega

theorem sizeMembers_le_length (ms : List (String × Json)) :
    sizeMembers ms ≤ (renderMembers ms).length := by
  match ms with
  | [] => simp [sizeMembers]
  | [(k, v)] =>
      have hv := size_le_length_render v
      simp only [sizeMembers, renderMembers, List.length_append, List.length_cons]
      omega
  | (k, v) :: m :: ms =>
      have hv := size_le_length_render v
      have hms := sizeMembers_le_length (m :: ms)
      rw [sizeMembers, renderMembers]
      simp only [List.length_append, List.length_cons]
      omega

end

/-- A value that begins like a number is one. -/
theorem parseValue_of_head {c : Char} (hc : isDigit c = true ∨ c = '-') (fuel : ℕ)
    (cs : List Char) : parseValue (fuel + 1) (c :: cs) = parseNumber (c :: cs) := by
  have hspace : isSpace c = false := by
    by_contra h
    simp only [Bool.not_eq_false, isSpace, Bool.or_eq_true, beq_iff_eq] at h
    rcases h with ((rfl | rfl) | rfl) | rfl <;> exact absurd hc (by decide)
  have hne : ∀ d : Char, ¬ (isDigit d = true ∨ d = '-') → c ≠ d := by
    rintro d hd rfl
    exact hd hc
  have hn := hne 'n' (by decide)
  have ht := hne 't' (by decide)
  have hf := hne 'f' (by decide)
  have hquote := hne '"' (by decide)
  have hbracket := hne '[' (by decide)
  have hbrace := hne '\x7b' (by decide)
  rw [parseValue, skipSpace_cons hspace]
  split <;> simp_all

theorem head_renderElems (x : Json) (xs : List Json) :
    ∃ c cs, renderElems (x :: xs) = c :: cs ∧ isSpace c = false ∧ c ≠ ']' := by
  rcases head_render x with ⟨c, cs, hrender, hspace, hbracket⟩
  cases xs with
  | nil => exact ⟨c, _, by rw [renderElems, hrender, List.cons_append], hspace, hbracket⟩
  | cons y ys => exact ⟨c, _, by rw [renderElems, hrender, List.cons_append], hspace, hbracket⟩

theorem head_renderMembers (k : String) (v : Json) (ms : List (String × Json)) :
    ∃ cs, renderMembers ((k, v) :: ms) = '"' :: cs := by
  cases ms with
  | nil => exact ⟨_, by rw [renderMembers, renderString, List.cons_append]⟩
  | cons m' ms' => exact ⟨_, by rw [renderMembers, renderString, List.cons_append]⟩

mutual

/-- A written value in front of a text that does not continue a number is read back. -/
theorem parseValue_render (j : Json) {fuel : ℕ} (rest : List Char) (hfuel : j.size ≤ fuel)
    (hrest : EndsNumber rest) : parseValue fuel (j.render ++ rest) = some (j, rest) := by
  cases fuel with
  | zero => cases j <;> simp [Json.size] at hfuel
  | succ fuel =>
      cases j with
      | null => simp [parseValue, Json.render, skipSpace, isSpace]
      | bool b => cases b <;> simp [parseValue, Json.render, skipSpace, isSpace]
      | num n =>
          rcases head_of_isNumber n.valid with ⟨c, cs, htext, hc⟩
          calc
            parseValue (fuel + 1) ((Json.num n).render ++ rest)
                = parseValue (fuel + 1) (c :: (cs ++ rest)) := by
                  rw [Json.render, htext, List.cons_append]
            _ = parseNumber (n.text ++ rest) := by
                  rw [parseValue_of_head hc, htext, List.cons_append]
            _ = some (.num n, rest) := parseNumber_render n hrest
      | str s =>
          simp [parseValue, Json.render, renderString, skipSpace, isSpace, parseString_render]
      | arr xs =>
          cases xs with
          | nil => simp [parseValue, Json.render, renderElems, skipSpace, isSpace]
          | cons x xs =>
              have hx : sizeElems (x :: xs) ≤ fuel := by
                simp only [Json.size] at hfuel
                omega
              have hread := parseElems_render x xs hx rest
              rcases head_renderElems x xs with ⟨c, cs, helems, hspace, hbracket⟩
              rw [helems, List.cons_append] at hread
              rw [Json.render, List.cons_append, parseValue, skipSpace_cons (by decide), helems,
                List.cons_append]
              simp [skipSpace_cons hspace, hbracket, hread]
      | obj ms =>
          cases ms with
          | nil => simp [parseValue, Json.render, renderMembers, skipSpace, isSpace]
          | cons m ms =>
              have hm : sizeMembers (m :: ms) ≤ fuel := by
                simp only [Json.size] at hfuel
                omega
              have hread := parseMembers_render m.1 m.2 ms hm rest
              rcases head_renderMembers m.1 m.2 ms with ⟨cs, hmembers⟩
              rw [hmembers, List.cons_append] at hread
              rw [Json.render, List.cons_append, parseValue, skipSpace_cons (by decide), hmembers,
                List.cons_append]
              simp [skipSpace_cons (c := '"') (by decide), hread]
termination_by j.size
decreasing_by all_goals (subst_vars; simp [Json.size])

theorem parseElems_render (x : Json) (xs : List Json) {fuel : ℕ}
    (hfuel : sizeElems (x :: xs) ≤ fuel) (rest : List Char) :
    parseElems fuel (renderElems (x :: xs) ++ rest) = some (x :: xs, rest) := by
  cases fuel with
  | zero => simp [sizeElems] at hfuel
  | succ fuel =>
      have hx : x.size ≤ fuel := by
        simp only [sizeElems] at hfuel
        omega
      cases xs with
      | nil =>
          have hread := parseValue_render x (']' :: rest) hx (endsNumber_cons (by decide))
          simp [parseElems, renderElems, hread, skipSpace_cons (c := ']') (by decide)]
      | cons y ys =>
          have hys : sizeElems (y :: ys) ≤ fuel := by
            rw [sizeElems] at hfuel
            omega
          have hread := parseValue_render x (',' :: (renderElems (y :: ys) ++ rest)) hx
            (endsNumber_cons (by decide))
          have htail := parseElems_render y ys hys rest
          simp [parseElems, renderElems, hread, skipSpace_cons (c := ',') (by decide), htail]
termination_by sizeElems (x :: xs)
decreasing_by all_goals (subst_vars; simp only [sizeElems]; omega)

theorem parseMembers_render (k : String) (v : Json) (ms : List (String × Json)) {fuel : ℕ}
    (hfuel : sizeMembers ((k, v) :: ms) ≤ fuel) (rest : List Char) :
    parseMembers fuel (renderMembers ((k, v) :: ms) ++ rest) = some ((k, v) :: ms, rest) := by
  cases fuel with
  | zero => simp [sizeMembers] at hfuel
  | succ fuel =>
      have hv : v.size ≤ fuel := by
        simp only [sizeMembers] at hfuel
        omega
      cases ms with
      | nil =>
          have hread := parseValue_render v ('\x7d' :: rest) hv (endsNumber_cons (by decide))
          simp [parseMembers, renderMembers, renderString, parseString_render, hread,
            skipSpace_cons (c := '"') (by decide), skipSpace_cons (c := ':') (by decide),
            skipSpace_cons (c := '\x7d') (by decide)]
      | cons m ms =>
          have hms : sizeMembers (m :: ms) ≤ fuel := by
            rw [sizeMembers] at hfuel
            omega
          have hread := parseValue_render v (',' :: (renderMembers (m :: ms) ++ rest)) hv
            (endsNumber_cons (by decide))
          have htail := parseMembers_render m.1 m.2 ms hms rest
          simp [parseMembers, renderMembers, renderString, parseString_render, hread, htail,
            skipSpace_cons (c := '"') (by decide), skipSpace_cons (c := ':') (by decide),
            skipSpace_cons (c := ',') (by decide)]
termination_by sizeMembers ((k, v) :: ms)
decreasing_by all_goals (subst_vars; simp only [sizeMembers]; omega)

end

/-- What is written is read back. -/
theorem parse_render (j : Json) : parse j.render = some j := by
  have hread := parseValue_render j [] (size_le_length_render j) endsNumber_nil
  rw [List.append_nil] at hread
  simp [parse, hread, skipSpace]

/-! ## The written characters -/

/-- No control character. -/
def Printable (cs : List Char) : Prop :=
  ∀ c ∈ cs, 32 ≤ c.toNat

theorem printable_append {as bs : List Char} :
    Printable (as ++ bs) ↔ Printable as ∧ Printable bs :=
  List.forall_mem_append

theorem printable_cons {c : Char} {cs : List Char} :
    Printable (c :: cs) ↔ 32 ≤ c.toNat ∧ Printable cs :=
  List.forall_mem_cons

theorem printable_nil : Printable [] :=
  List.forall_mem_nil _

theorem printable_of_all {cs : List Char} (h : cs.all (fun c => decide (32 ≤ c.toNat)) = true) :
    Printable cs :=
  fun c hc => of_decide_eq_true (List.all_eq_true.1 h c hc)

theorem printable_hexDigit {n : ℕ} (h : n < 16) : 32 ≤ (hexDigit n).toNat := by
  interval_cases n <;> decide

theorem printable_renderChar (c : Char) : Printable (renderChar c) := by
  unfold renderChar
  split
  · rename_i e he
    have hescape : 32 ≤ e.toNat := by
      unfold shortEscape at he
      split_ifs at he <;> cases he <;> decide
    exact printable_cons.2 ⟨by decide, printable_cons.2 ⟨hescape, printable_nil⟩⟩
  · split_ifs with hunicode
    · have hdigit : ∀ n, 32 ≤ (hexDigit (n % 16)).toNat :=
        fun n => printable_hexDigit (Nat.mod_lt n (by norm_num))
      simp only [unicodeEscape, printable_cons, hdigit, printable_nil, and_true]
      decide
    · simp only [needsUnicodeEscape, Bool.or_eq_true, decide_eq_true_eq, not_or, not_lt] at hunicode
      exact printable_cons.2 ⟨hunicode.1.1.1.1.1, printable_nil⟩

theorem printable_renderString (s : String) : Printable (renderString s) := by
  have hchars : Printable (s.toList.flatMap renderChar) := by
    intro c hc
    rcases List.mem_flatMap.1 hc with ⟨c', -, hc'⟩
    exact printable_renderChar c' c hc'
  have hquote : 32 ≤ '"'.toNat := by decide
  simp only [renderString, printable_cons, printable_append]
  exact ⟨hquote, hchars, hquote, printable_nil⟩

theorem printable_number (n : Number) : Printable n.text := by
  intro c hc
  have hchar := isNumberChar_of_isNumber n.valid c hc
  simp only [isNumberChar, isDigit, Bool.or_eq_true, Bool.and_eq_true, decide_eq_true_eq,
    beq_iff_eq] at hchar
  rcases hchar with ((((hdigit | rfl) | rfl) | rfl) | rfl) | rfl
  · have hlower : '0'.toNat ≤ c.toNat := hdigit.1
    exact le_trans (by decide) hlower
  all_goals decide

mutual

/-- No line break is written, in particular. -/
theorem printable_render : ∀ j : Json, Printable j.render
  | .null => by
      rw [Json.render]
      exact printable_of_all rfl
  | .bool true => by
      rw [Json.render]
      exact printable_of_all rfl
  | .bool false => by
      rw [Json.render]
      exact printable_of_all rfl
  | .num n => by
      rw [Json.render]
      exact printable_number n
  | .str s => by
      rw [Json.render]
      exact printable_renderString s
  | .arr xs => by
      rw [Json.render]
      exact printable_cons.2 ⟨by decide, printable_renderElems xs⟩
  | .obj ms => by
      rw [Json.render]
      exact printable_cons.2 ⟨by decide, printable_renderMembers ms⟩

theorem printable_renderElems : ∀ xs : List Json, Printable (renderElems xs)
  | [] => by
      rw [renderElems]
      exact printable_cons.2 ⟨by decide, printable_nil⟩
  | [x] => by
      rw [renderElems]
      exact printable_append.2
        ⟨printable_render x, printable_cons.2 ⟨by decide, printable_nil⟩⟩
  | x :: y :: xs => by
      rw [renderElems]
      exact printable_append.2
        ⟨printable_render x, printable_cons.2 ⟨by decide, printable_renderElems (y :: xs)⟩⟩

theorem printable_renderMembers :
    ∀ ms : List (String × Json), Printable (renderMembers ms)
  | [] => by
      rw [renderMembers]
      exact printable_cons.2 ⟨by decide, printable_nil⟩
  | [(k, v)] => by
      rw [renderMembers]
      simp only [printable_append, printable_cons]
      exact ⟨printable_renderString k, by decide, printable_render v, by decide, printable_nil⟩
  | (k, v) :: m :: ms => by
      rw [renderMembers]
      simp only [printable_append, printable_cons]
      exact ⟨printable_renderString k, by decide, printable_render v, by decide,
        printable_renderMembers (m :: ms)⟩

end

/-! ## Integer literals -/

def digitChar (d : ℕ) : Char :=
  Char.ofNat (48 + d)

def natLiteral (n : ℕ) : List Char :=
  if n = 0 then ['0'] else (Nat.digits 10 n).reverse.map digitChar

def intLiteral (z : ℤ) : List Char :=
  if z < 0 then '-' :: natLiteral z.natAbs else natLiteral z.natAbs

theorem isDigit_digitChar {d : ℕ} (h : d < 10) : isDigit (digitChar d) = true := by
  revert h d
  decide

theorem digitChar_ne_zero {d : ℕ} (h : d < 10) (hd : d ≠ 0) : digitChar d ≠ '0' := by
  revert h d
  decide

theorem isNumberChar_of_isDigit {c : Char} (h : isDigit c = true) : isNumberChar c = true := by
  simp [isNumberChar, h]

/-- Digits without a leading zero, or a single zero. -/
theorem natLiteral_cases (n : ℕ) :
    (∀ c ∈ natLiteral n, isDigit c = true) ∧
      (natLiteral n = ['0'] ∨ ∃ c ds, natLiteral n = c :: ds ∧ c ≠ '0') := by
  by_cases hn : n = 0
  · subst hn
    have hzero : natLiteral 0 = ['0'] := rfl
    refine ⟨fun c hc => ?_, .inl hzero⟩
    rw [hzero] at hc
    cases List.mem_singleton.1 hc
    rfl
  · have hdigits : natLiteral n = (Nat.digits 10 n).reverse.map digitChar := by
      simp [natLiteral, hn]
    have hne : Nat.digits 10 n ≠ [] := Nat.digits_ne_nil_iff_ne_zero.2 hn
    refine ⟨fun c hc => ?_, .inr ?_⟩
    · rw [hdigits] at hc
      rcases List.mem_map.1 hc with ⟨d, hd, rfl⟩
      exact isDigit_digitChar (Nat.digits_lt_base (by decide) (List.mem_reverse.1 hd))
    · have hlast := Nat.getLast_digit_ne_zero 10 hn
      have hlt := Nat.digits_lt_base (b := 10) (by decide) (List.getLast_mem hne)
      refine ⟨_, ((Nat.digits 10 n).dropLast.reverse).map digitChar, ?_,
        digitChar_ne_zero hlt hlast⟩
      rw [hdigits, ← List.map_cons, ← List.reverse_concat, List.dropLast_append_getLast]

theorem isNumber_digits {cs : List Char} (hdigits : ∀ c ∈ cs, isDigit c = true)
    (hhead : cs = ['0'] ∨ ∃ c ds, cs = c :: ds ∧ c ≠ '0') :
    isNumber cs = true ∧ isNumber ('-' :: cs) = true := by
  rcases hhead with rfl | ⟨c, ds, rfl, hc⟩
  · decide
  · have hfirst : isDigit c = true := hdigits c List.mem_cons_self
    have hrest : ∀ d ∈ ds, isDigit d = true := fun d hd => hdigits d (List.mem_cons_of_mem _ hd)
    have hall : ds.all isNumberChar = true :=
      List.all_eq_true.2 fun d hd => isNumberChar_of_isDigit (hrest d hd)
    have hminus : c ≠ '-' := by
      rintro rfl
      exact absurd hfirst (by decide)
    have hint : afterInt (c :: ds) = some [] := by
      have hdrop : ds.dropWhile isDigit = [] := List.dropWhile_eq_nil_iff.2 hrest
      simp [afterInt, afterDigits, hc, hfirst, hdrop]
    constructor
    · simp [isNumber, afterSign, hminus, hint, afterFraction, afterExponent, hall,
        isNumberChar_of_isDigit hfirst]
    · have hsign : isNumberChar '-' = true := by decide
      simp [isNumber, afterSign, hint, afterFraction, afterExponent, hall, hsign,
        isNumberChar_of_isDigit hfirst]

/-- An integer as `json.Marshal` writes it. -/
def intNumber (z : ℤ) : Number where
  text := intLiteral z
  valid := by
    rcases natLiteral_cases z.natAbs with ⟨hdigits, hhead⟩
    unfold intLiteral
    split
    · exact (isNumber_digits hdigits hhead).2
    · exact (isNumber_digits hdigits hhead).1

end Base
end OpenRouter
