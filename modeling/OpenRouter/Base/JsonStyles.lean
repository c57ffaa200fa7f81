import OpenRouter.Base.AsciiJson

/-!
# JsonStyles — one tree, many texts

JSON writers differ in the characters they escape and in the white space they put around the
tokens.  A `Style` is such a choice, and `parse_write` reads back what any of them writes.  The
proof follows `parse_render`: one value in front of any text that cannot continue a number.
-/

namespace OpenRouter
namespace Base

/-! ## Styles -/

/-- How one character of a string is written, and what the reader sees of it. -/
structure Escaping where
  spell : Char → List Char
  units : Char → List (Char ⊕ ℕ)
  parseUnits_spell : ∀ c cs,
    parseUnits (spell c ++ cs) = (parseUnits cs).map fun p => (units c ++ p.1, p.2)
  combineUnits_units : ∀ c us, combineUnits (units c ++ us) = c :: combineUnits us

/-- The white space of a writer; what stands inside brackets depends on the depth. -/
structure Style extends Escaping where
  afterOpen : ℕ → List Char
  afterComma : ℕ → List Char
  beforeClose : ℕ → List Char
  afterColon : List Char
  open_space : ∀ d, ∀ c ∈ afterOpen d, isSpace c = true
  comma_space : ∀ d, ∀ c ∈ afterComma d, isSpace c = true
  close_space : ∀ d, ∀ c ∈ beforeClose d, isSpace c = true
  colon_space : ∀ c ∈ afterColon, isSpace c = true

variable (st : Style)

def Escaping.writeString (e : Escaping) (s : String) : List Char :=
  '"' :: (s.toList.flatMap e.spell ++ ['"'])

mutual

/-- A value at a depth. -/
def Json.write (d : ℕ) : Json → List Char
  | .null => ['n', 'u', 'l', 'l']
  | .bool true => ['t', 'r', 'u', 'e']
  | .bool false => ['f', 'a', 'l', 's', 'e']
  | .num n => n.text
  | .str s => st.writeString s
  | .arr [] => ['[', ']']
  | .arr (x :: xs) => '[' :: (st.afterOpen (d + 1) ++ writeElems (d + 1) (x :: xs))
  | .obj [] => ['\x7b', '\x7d']
  | .obj (m :: ms) => '\x7b' :: (st.afterOpen (d + 1) ++ writeMembers (d + 1) (m :: ms))

/-- The elements and the closing bracket. -/
def writeElems (d : ℕ) : List Json → List Char
  | [] => [']']
  | [x] => x.write d ++ (st.beforeClose d ++ [']'])
  | x :: y :: xs => x.write d ++ ',' :: (st.afterComma d ++ writeElems d (y :: xs))

/-- The members and the closing brace. -/
def writeMembers (d : ℕ) : List (String × Json) → List Char
  | [] => ['\x7d']
  | [(k, v)] =>
      st.writeString k ++ ':' :: (st.afterColon ++ (v.write d ++ (st.beforeClose d ++ ['\x7d'])))
  | (k, v) :: m :: ms =>
      st.writeString k ++
        ':' :: (st.afterColon ++
          (v.write d ++ ',' :: (st.afterComma d ++ writeMembers d (m :: ms))))

end

/-! ## Strings and white space -/

theorem Escaping.parseUnits_flatMap (e : Escaping) (cs rest : List Char) :
    parseUnits (cs.flatMap e.spell ++ '"' :: rest) = some (cs.flatMap e.units, rest) := by
  induction cs with
  | nil => simp [parseUnits]
  | cons c cs ih =>
      calc
        parseUnits ((c :: cs).flatMap e.spell ++ '"' :: rest)
            = parseUnits (e.spell c ++ (cs.flatMap e.spell ++ '"' :: rest)) := by
              rw [List.flatMap_cons, List.append_assoc]
        _ = some ((c :: cs).flatMap e.units, rest) := by
              rw [e.parseUnits_spell, ih, List.flatMap_cons]
              rfl

theorem Escaping.combineUnits_flatMap (e : Escaping) (cs : List Char) :
    combineUnits (cs.flatMap e.units) = cs := by
  induction cs with
  | nil => rfl
  | cons c cs ih => rw [List.flatMap_cons, e.combineUnits_units, ih]

theorem Escaping.parseString_spell (e : Escaping) (s : String) (rest : List Char) :
    parseString (s.toList.flatMap e.spell ++ '"' :: rest) = some (s, rest) := by
  simp [parseString, e.parseUnits_flatMap, e.combineUnits_flatMap]

theorem skipSpace_append {gap : List Char} (h : ∀ c ∈ gap, isSpace c = true) (cs : List Char) :
    skipSpace (gap ++ cs) = skipSpace cs :=
  List.dropWhile_append_of_pos h

theorem parseValue_gap {gap : List Char} (h : ∀ c ∈ gap, isSpace c = true) (fuel : ℕ)
    (cs : List Char) : parseValue fuel (gap ++ cs) = parseValue fuel cs := by
  cases fuel with
  | zero => rw [parseValue, parseValue]
  | succ fuel => rw [parseValue, parseValue, skipSpace_append h]

theorem parseElems_gap {gap : List Char} (h : ∀ c ∈ gap, isSpace c = true) (fuel : ℕ)
    (cs : List Char) : parseElems fuel (gap ++ cs) = parseElems fuel cs := by
  cases fuel with
  | zero => rw [parseElems, parseElems]
  | succ fuel => rw [parseElems, parseElems, parseValue_gap h]

theorem parseMembers_gap {gap : List Char} (h : ∀ c ∈ gap, isSpace c = true) (fuel : ℕ)
    (cs : List Char) : parseMembers fuel (gap ++ cs) = parseMembers fuel cs := by
  cases fuel with
  | zero => rw [parseMembers, parseMembers]
  | succ fuel => rw [parseMembers, parseMembers, skipSpace_append h]

theorem isNumberChar_of_isSpace {c : Char} (h : isSpace c = true) : isNumberChar c = false := by
  simp only [isSpace, Bool.or_eq_true, beq_iff_eq] at h
  rcases h with ((rfl | rfl) | rfl) | rfl <;> decide

/-- White space ends a number as well as what stands behind it does. -/
theorem endsNumber_gap {gap : List Char} (h : ∀ c ∈ gap, isSpace c = true) {cs : List Char}
    (hcs : EndsNumber cs) : EndsNumber (gap ++ cs) := by
  cases gap with
  | nil => exact hcs
  | cons c gap => exact endsNumber_cons (isNumberChar_of_isSpace (h c List.mem_cons_self))

/-! ## The round trip -/

/-- A written value begins with a character that is no space and closes no array. -/
theorem head_write (d : ℕ) (j : Json) :
    ∃ c cs, j.write st d = c :: cs ∧ isSpace c = false ∧ c ≠ ']' := by
  cases j with
  | null => exact ⟨_, _, by rw [Json.write], by decide, by decide⟩
  | bool b => cases b <;> exact ⟨_, _, by rw [Json.write], by decide, by decide⟩
  | num n =>
      rcases head_render (.num n) with ⟨c, cs, htext, hc⟩
      exact ⟨c, cs, by rw [Json.write, ← htext, Json.render], hc⟩
  | str s => exact ⟨_, _, by rw [Json.write, Escaping.writeString], by decide, by decide⟩
  | arr xs => cases xs <;> exact ⟨_, _, by rw [Json.write], by decide, by decide⟩
  | obj ms => cases ms <;> exact ⟨_, _, by rw [Json.write], by decide, by decide⟩

theorem head_writeElems (d : ℕ) (x : Json) (xs : List Json) :
    ∃ c cs, writeElems st d (x :: xs) = c :: cs ∧ isSpace c = false ∧ c ≠ ']' := by
  rcases head_write st d x with ⟨c, cs, hwrite, hspace, hbracket⟩
  cases xs with
  | nil => exact ⟨c, _, by rw [writeElems, hwrite, List.cons_append], hspace, hbracket⟩
  | cons y ys => exact ⟨c, _, by rw [writeElems, hwrite, List.cons_append], hspace, hbracket⟩

theorem head_writeMembers (d : ℕ) (k : String) (v : Json) (ms : List (String × Json)) :
    ∃ cs, writeMembers st d ((k, v) :: ms) = '"' :: cs := by
  cases ms with
  | nil => exact ⟨_, by rw [writeMembers, Escaping.writeString, List.cons_append]⟩
  | cons m ms => exact ⟨_, by rw [writeMembers, Escaping.writeString, List.cons_append]⟩

mutual

theorem size_le_length_write (d : ℕ) (j : Json) : j.size ≤ (j.write st d).length := by
  match j with
  | .null => simp [Json.size, Json.write]
  | .bool true => simp [Json.size, Json.write]
  | .bool false => simp [Json.size, Json.write]
  | .num n =>
      rcases head_of_isNumber n.valid with ⟨c, cs, htext, -⟩
      simp [Json.size, Json.write, htext]
  | .str s => simp [Json.size, Json.write, Escaping.writeString]
  | .arr [] => simp [Json.size, Json.write, sizeElems]
  | .arr (x :: xs) =>
      have hxs := sizeElems_le_length_write (d + 1) (x :: xs)
      simp only [Json.size, Json.write, List.length_cons, List.length_append]
      omega
  | .obj [] => simp [Json.size, Json.write, sizeMembers]
  | .obj (m :: ms) =>
      have hms := sizeMembers_le_length_write (d + 1) (m :: ms)
      simp only [Json.size, Json.write, List.length_cons, List.length_append]
      omega

theorem sizeElems_le_length_write (d : ℕ) (xs : List Json) :
    sizeElems xs ≤ (writeElems st d xs).length := by
  match xs with
  | [] => simp [sizeElems]
  | [x] =>
      have hx := size_le_length_write d x
      simp only [sizeElems, writeElems, List.length_append, List.length_singleton]
      omega
  | x :: y :: xs =>
      have hx := size_le_length_write d x
      have hxs := sizeElems_le_length_write d (y :: xs)
      rw [sizeElems, writeElems]
      simp only [List.length_append, List.length_cons]
      omega

theorem sizeMembers_le_length_write (d : ℕ) (ms : List (String × Json)) :
    sizeMembers ms ≤ (writeMembers st d ms).length := by
  match ms with
  | [] => simp [sizeMembers]
  | [(k, v)] =>
      have hv := size_le_length_write d v
      simp only [sizeMembers, writeMembers, List.length_append, List.length_cons]
      omega
  | (k, v) :: m :: ms =>
      have hv := size_le_length_write d v
      have hms := sizeMembers_le_length_write d (m :: ms)
      rw [sizeMembers, writeMembers]
      simp only [List.length_append, List.length_cons]
      omega

end

mutual

/-- A written value in front of a text that does not continue a number is read back. -/
theorem parseValue_write (d : ℕ) (j : Json) {fuel : ℕ} (rest : List Char) (hfuel : j.size ≤ fuel)
    (hrest : EndsNumber rest) : parseValue fuel (j.write st d ++ rest) = some (j, rest) := by
  cases fuel with
  | zero => cases j <;> simp [Json.size] at hfuel
  | succ fuel =>
      cases j with
      | null => simp [parseValue, Json.write, skipSpace, isSpace]
      | bool b => cases b <;> simp [parseValue, Json.write, skipSpace, isSpace]
      | num n =>
          have hnum := parseValue_render (.num n) rest hfuel hrest
          rwa [Json.render] at hnum
      | str s =>
          simp [parseValue, Json.write, Escaping.writeString, skipSpace, isSpace,
            st.parseString_spell]
      | arr xs =>
          cases xs with
          | nil => simp [parseValue, Json.write, skipSpace, isSpace]
          | cons x xs =>
              have hx : sizeElems (x :: xs) ≤ fuel := by
                simp only [Json.size] at hfuel
                omega
              have hread : parseElems fuel
                  (st.afterOpen (d + 1) ++ (writeElems st (d + 1) (x :: xs) ++ rest)) =
                    some (x :: xs, rest) := by
                rw [parseElems_gap (st.open_space (d + 1))]
                exact parseElems_write (d + 1) x xs hx rest
              rcases head_writeElems st (d + 1) x xs with ⟨c, cs, helems, hspace, hbracket⟩
              have hskip : skipSpace
                  (st.afterOpen (d + 1) ++ (writeElems st (d + 1) (x :: xs) ++ rest)) =
                    c :: (cs ++ rest) := by
                rw [skipSpace_append (st.open_space (d + 1)), helems, List.cons_append,
                  skipSpace_cons hspace]
              rw [Json.write, List.cons_append, List.append_assoc, parseValue,
                skipSpace_cons (by decide)]
              simp [hskip, hbracket, hread]
      | obj ms =>
          cases ms with
          | nil => simp [parseValue, Json.write, skipSpace, isSpace]
          | cons m ms =>
              have hm : sizeMembers (m :: ms) ≤ fuel := by
                simp only [Json.size] at hfuel
                omega
              have hread : parseMembers fuel
                  (st.afterOpen (d + 1) ++ (writeMembers st (d + 1) (m :: ms) ++ rest)) =
                    some (m :: ms, rest) := by
                rw [parseMembers_gap (st.open_space (d + 1))]
                exact parseMembers_write (d + 1) m.1 m.2 ms hm rest
              rcases head_writeMembers st (d + 1) m.1 m.2 ms with ⟨cs, hmembers⟩
              have hskip : skipSpace
                  (st.afterOpen (d + 1) ++ (writeMembers st (d + 1) (m :: ms) ++ rest)) =
                    '"' :: (cs ++ rest) := by
                rw [skipSpace_append (st.open_space (d + 1)), hmembers, List.cons_append,
                  skipSpace_cons (by decide)]
              rw [Json.write, List.cons_append, List.append_assoc, parseValue,
                skipSpace_cons (by decide)]
              simp [hskip, hread]
termination_by j.size
decreasing_by all_goals (subst_vars; simp [Json.size])

theorem parseElems_write (d : ℕ) (x : Json) (xs : List Json) {fuel : ℕ}
    (hfuel : sizeElems (x :: xs) ≤ fuel) (rest : List Char) :
    parseElems fuel (writeElems st d (x :: xs) ++ rest) = some (x :: xs, rest) := by
  cases fuel with
  | zero => simp [sizeElems] at hfuel
  | succ fuel =>
      have hx : x.size ≤ fuel := by
        simp only [sizeElems] at hfuel
        omega
      cases xs with
      | nil =>
          have hread := parseValue_write d x (st.beforeClose d ++ ']' :: rest) hx
            (endsNumber_gap (st.close_space d) (endsNumber_cons (by decide)))
          simp [parseElems, writeElems, hread, skipSpace_append (st.close_space d),
            skipSpace_cons (c := ']') (by decide)]
      | cons y ys =>
          have hys : sizeElems (y :: ys) ≤ fuel := by
            rw [sizeElems] at hfuel
            omega
          have hread := parseValue_write d x
            (',' :: (st.afterComma d ++ (writeElems st d (y :: ys) ++ rest))) hx
            (endsNumber_cons (by decide))
          have htail := parseElems_write d y ys hys rest
          simp [parseElems, writeElems, hread, skipSpace_cons (c := ',') (by decide),
            parseElems_gap (st.comma_space d), htail]
termination_by sizeElems (x :: xs)
decreasing_by all_goals (subst_vars; simp only [sizeElems]; omega)

theorem parseMembers_write (d : ℕ) (k : String) (v : Json) (ms : List (String × Json)) {fuel : ℕ}
    (hfuel : sizeMembers ((k, v) :: ms) ≤ fuel) (rest : List Char) :
    parseMembers fuel (writeMembers st d ((k, v) :: ms) ++ rest) = some ((k, v) :: ms, rest) := by
  cases fuel with
  | zero => simp [sizeMembers] at hfuel
  | succ fuel =>
      have hv : v.size ≤ fuel := by
        simp only [sizeMembers] at hfuel
        omega
      cases ms with
      | nil =>
          have hread := parseValue_write d v (st.beforeClose d ++ '\x7d' :: rest) hv
            (endsNumber_gap (st.close_space d) (endsNumber_cons (by decide)))
          simp [parseMembers, writeMembers, Escaping.writeString, st.parseString_spell,
            parseValue_gap st.colon_space, hread, skipSpace_append (st.close_space d),
            skipSpace_cons (c := '"') (by decide), skipSpace_cons (c := ':') (by decide),
            skipSpace_cons (c := '\x7d') (by decide)]
      | cons m ms =>
          have hms : sizeMembers (m :: ms) ≤ fuel := by
            rw [sizeMembers] at hfuel
            omega
          have hread := parseValue_write d v
            (',' :: (st.afterComma d ++ (writeMembers st d (m :: ms) ++ rest))) hv
            (endsNumber_cons (by decide))
          have htail := parseMembers_write d m.1 m.2 ms hms rest
          simp [parseMembers, writeMembers, Escaping.writeString, st.parseString_spell,
            parseValue_gap st.colon_space, hread, parseMembers_gap (st.comma_space d), htail,
            skipSpace_cons (c := '"') (by decide), skipSpace_cons (c := ':') (by decide),
            skipSpace_cons (c := ',') (by decide)]
termination_by sizeMembers ((k, v) :: ms)
decreasing_by all_goals (subst_vars; simp only [sizeMembers]; omega)

end

/-- What is written in any style is read back. -/
theorem parse_write (j : Json) : parse (j.write st 0) = some j := by
  have hread := parseValue_write st 0 j [] (size_le_length_write st 0 j) endsNumber_nil
  rw [List.append_nil] at hread
  simp [parse, hread, skipSpace]

/-- White space behind the value does not matter. -/
theorem parse_write_gap {gap : List Char} (h : ∀ c ∈ gap, isSpace c = true) (j : Json) :
    parse (j.write st 0 ++ gap) = some j := by
  have hfuel : j.size ≤ (j.write st 0 ++ gap).length := by
    have hsize := size_le_length_write st 0 j
    rw [List.length_append]
    omega
  have hends : EndsNumber gap := by
    have hgap := endsNumber_gap h endsNumber_nil
    rwa [List.append_nil] at hgap
  have hrest : skipSpace gap = [] := by
    have hskip := skipSpace_append h []
    rwa [List.append_nil] at hskip
  rw [parse, parseValue_write st 0 j gap hfuel hends]
  exact if_pos hrest

/-! ## Three styles -/

/-- Only what the grammar asks for is escaped. -/
def plainChar (c : Char) : List Char :=
  match shortEscape c with
  | some e => ['\\', e]
  | none => if c.toNat < 32 then unicodeEscape c.toNat else [c]

def plainUnits (c : Char) : List (Char ⊕ ℕ) :=
  [if shortEscape c = none ∧ c.toNat < 32 then .inr c.toNat else .inl c]

theorem parseUnits_plainChar (c : Char) (cs : List Char) :
    parseUnits (plainChar c ++ cs) =
      (parseUnits cs).map fun p => (plainUnits c ++ p.1, p.2) := by
  by_cases hcontrol : shortEscape c = none ∧ c.toNat < 32
  · have htext : plainChar c = unicodeEscape c.toNat := by
      simp only [plainChar, hcontrol.1, if_pos hcontrol.2]
    rw [htext, plainUnits, if_pos hcontrol]
    exact parseUnits_unicodeEscape (hcontrol.2.trans (by decide)) cs
  · rw [plainUnits, if_neg hcontrol]
    cases hshort : shortEscape c with
    | some e =>
        rcases shortUnescape_of_shortEscape hshort with ⟨hback, hu⟩
        simp only [plainChar, hshort, List.cons_append, List.nil_append]
        rw [parseUnits.eq_4 e cs (fun h => by simp_all), hback]
        cases parseUnits cs with
        | none => rfl
        | some p => rfl
    | none =>
        have hprintable : ¬ c.toNat < 32 := fun hlt => hcontrol ⟨hshort, hlt⟩
        have hquote : c ≠ '"' := by
          rintro rfl
          exact absurd hshort (by decide)
        have hslash : c ≠ '\\' := by
          rintro rfl
          exact absurd hshort (by decide)
        simp only [plainChar, hshort, if_neg hprintable]
        simp [parseUnits, hslash, hprintable]
        cases parseUnits cs with
        | none => rfl
        | some p => rfl

theorem combineUnits_plainUnits (c : Char) (us : List (Char ⊕ ℕ)) :
    combineUnits (plainUnits c ++ us) = c :: combineUnits us := by
  unfold plainUnits
  split
  · rename_i hcontrol
    -- A control character is no surrogate, so its unit does not pair with the next.
    have hsur : isSurrogate c.toNat = false := by
      simp only [isSurrogate, Bool.and_eq_false_iff, decide_eq_false_iff_not]
      omega
    have hhigh : ¬ 0xD800 ≤ c.toNat := by
      omega
    cases us with
    | nil => simp [combineUnits, hsur]
    | cons u us =>
        cases u with
        | inl d => simp [combineUnits, hsur]
        | inr m => simp [combineUnits, hsur, hhigh]
  · simp [combineUnits]

def plainEscaping : Escaping where
  spell := plainChar
  units := plainUnits
  parseUnits_spell := parseUnits_plainChar
  combineUnits_units := combineUnits_plainUnits

/-- No white space at all. -/
def compact : Style where
  toEscaping := plainEscaping
  afterOpen := fun _ => []
  afterComma := fun _ => []
  beforeClose := fun _ => []
  afterColon := []
  open_space := by simp
  comma_space := by simp
  close_space := by simp
  colon_space := by simp

/-- Nothing outside ASCII. -/
def asciiEscaping : Escaping where
  spell := asciiChar
  units := asciiUnits
  parseUnits_spell := parseUnits_asciiChar
  combineUnits_units := combineUnits_asciiUnits

/-- In ASCII, with a space behind every separator. -/
def spaced : Style where
  toEscaping := asciiEscaping
  afterOpen := fun _ => []
  afterComma := fun _ => [' ']
  beforeClose := fun _ => []
  afterColon := [' ']
  open_space := by simp
  comma_space := by simp [isSpace]
  close_space := by simp
  colon_space := by simp [isSpace]

/-- A line break, and `width` spaces for each level. -/
def lineAt (width d : ℕ) : List Char :=
  '\n' :: List.replicate (width * d) ' '

theorem isSpace_of_mem_lineAt {width d : ℕ} {c : Char} (h : c ∈ lineAt width d) :
    isSpace c = true := by
  rcases List.mem_cons.1 h with rfl | h
  · decide
  · rw [List.eq_of_mem_replicate h]
    decide

/-- Every element and every member on a line of its own. -/
def indented (width : ℕ) : Style where
  toEscaping := plainEscaping
  afterOpen := lineAt width
  afterComma := lineAt width
  beforeClose := fun d => lineAt width (d - 1)
  afterColon := [' ']
  open_space := fun _ _ => isSpace_of_mem_lineAt
  comma_space := fun _ _ => isSpace_of_mem_lineAt
  close_space := fun _ _ => isSpace_of_mem_lineAt
  colon_space := by simp [isSpace]

end Base
end OpenRouter
