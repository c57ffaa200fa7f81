import OpenRouter.Base.Json

/-!
# AsciiJson — flat objects in ASCII

An object whose members are strings or null, written with a space behind every separator and with
every character outside ASCII escaped, beyond the first plane as a pair of surrogates.  `parse`
reads it back: `parse_dumps`.
-/

namespace OpenRouter
namespace Base

/-! ## Writing -/

/-- The code units of a character. -/
def codeUnits (c : Char) : List ℕ :=
  if c.toNat < 0x10000 then [c.toNat]
  else [0xD800 + (c.toNat - 0x10000) / 1024, 0xDC00 + (c.toNat - 0x10000) % 1024]

/-- The characters from the space to the tilde. -/
def isPrintableAscii (c : Char) : Bool :=
  32 ≤ c.toNat && c.toNat ≤ 126

def asciiChar (c : Char) : List Char :=
  match shortEscape c with
  | some e => ['\\', e]
  | none => if isPrintableAscii c then [c] else (codeUnits c).flatMap unicodeEscape

def asciiString (s : String) : List Char :=
  '"' :: (s.toList.flatMap asciiChar ++ ['"'])

def dumpsValue : Option String → List Char
  | some s => asciiString s
  | none => ['n', 'u', 'l', 'l']

/-- The members and the closing brace. -/
def dumpsMembers : List (String × Option String) → List Char
  | [] => ['\x7d']
  | [(k, v)] => asciiString k ++ ':' :: ' ' :: (dumpsValue v ++ ['\x7d'])
  | (k, v) :: m :: ms =>
      asciiString k ++ ':' :: ' ' :: (dumpsValue v ++ ',' :: ' ' :: dumpsMembers (m :: ms))

def dumps (ms : List (String × Option String)) : List Char :=
  '\x7b' :: dumpsMembers ms

/-- The tree of such an object. -/
def flatMember (m : String × Option String) : String × Json :=
  (m.1, match m.2 with
    | some s => .str s
    | none => .null)

/-! ## Strings -/

/-- The units that the reader makes of one written character. -/
def asciiUnits (c : Char) : List (Char ⊕ ℕ) :=
  if shortEscape c = none ∧ isPrintableAscii c = false then (codeUnits c).map .inr else [.inl c]

theorem toNat_lt (c : Char) : c.toNat < 0xD800 ∨ 0xDFFF < c.toNat ∧ c.toNat < 0x110000 :=
  c.valid

theorem lt_of_mem_codeUnits {c : Char} {n : ℕ} (h : n ∈ codeUnits c) : n < 65536 := by
  have hc := toNat_lt c
  unfold codeUnits at h
  split at h
  · rw [List.mem_singleton] at h
    omega
  · simp only [List.mem_cons, List.not_mem_nil, or_false] at h
    omega

theorem parseUnits_flatMap_unicodeEscape {ns : List ℕ} (h : ∀ n ∈ ns, n < 65536) (cs : List Char) :
    parseUnits (ns.flatMap unicodeEscape ++ cs) =
      (parseUnits cs).map fun p => (ns.map .inr ++ p.1, p.2) := by
  induction ns with
  | nil =>
      cases hcs : parseUnits cs with
      | none => simp [hcs]
      | some p => simp [hcs]
  | cons n ns ih =>
      rcases List.forall_mem_cons.1 h with ⟨hn, hns⟩
      calc
        parseUnits ((n :: ns).flatMap unicodeEscape ++ cs)
            = parseUnits (unicodeEscape n ++ (ns.flatMap unicodeEscape ++ cs)) := by
              rw [List.flatMap_cons, List.append_assoc]
        _ = (parseUnits cs).map fun p => ((n :: ns).map .inr ++ p.1, p.2) := by
              rw [parseUnits_unicodeEscape hn, ih hns, Option.map_map]
              rfl

theorem parseUnits_asciiChar (c : Char) (cs : List Char) :
    parseUnits (asciiChar c ++ cs) =
      (parseUnits cs).map fun p => (asciiUnits c ++ p.1, p.2) := by
  cases hshort : shortEscape c with
  | some e =>
      rcases shortUnescape_of_shortEscape hshort with ⟨hback, hu⟩
      simp only [asciiChar, hshort, asciiUnits, List.cons_append, List.nil_append]
      rw [parseUnits.eq_4 e cs (fun h => by simp_all), hback]
      cases parseUnits cs with
      | none => rfl
      | some p => rfl
  | none =>
      by_cases hplain : isPrintableAscii c = true
      · have hquote : c ≠ '"' := by
          rintro rfl
          exact absurd hshort (by decide)
        have hslash : c ≠ '\\' := by
          rintro rfl
          exact absurd hshort (by decide)
        have hctl : ¬ c.toNat < 32 := by
          simp only [isPrintableAscii, Bool.and_eq_true, decide_eq_true_eq] at hplain
          omega
        simp only [asciiChar, hshort, hplain, asciiUnits]
        simp [parseUnits, hslash, hctl]
        cases parseUnits cs with
        | none => rfl
        | some p => rfl
      · have hunits : asciiUnits c = (codeUnits c).map .inr :=
          if_pos ⟨hshort, Bool.eq_false_iff.2 hplain⟩
        have htext : asciiChar c = (codeUnits c).flatMap unicodeEscape := by
          simp only [asciiChar, hshort, hplain]
          rfl
        rw [htext, hunits]
        exact parseUnits_flatMap_unicodeEscape (fun n => lt_of_mem_codeUnits) cs

theorem parseUnits_flatMap_asciiChar (cs rest : List Char) :
    parseUnits (cs.flatMap asciiChar ++ '"' :: rest) = some (cs.flatMap asciiUnits, rest) := by
  induction cs with
  | nil => simp [parseUnits]
  | cons c cs ih =>
      calc
        parseUnits ((c :: cs).flatMap asciiChar ++ '"' :: rest)
            = parseUnits (asciiChar c ++ (cs.flatMap asciiChar ++ '"' :: rest)) := by
              rw [List.flatMap_cons, List.append_assoc]
        _ = some ((c :: cs).flatMap asciiUnits, rest) := by
              rw [parseUnits_asciiChar, ih, List.flatMap_cons]
              rfl

/-- The units of a character in front of any others are one character. -/
theorem combineUnits_asciiUnits (c : Char) (us : List (Char ⊕ ℕ)) :
    combineUnits (asciiUnits c ++ us) = c :: combineUnits us := by
  have hc := toNat_lt c
  unfold asciiUnits
  split
  · by_cases hplane : c.toNat < 0x10000
    · -- No surrogate: the unit stands for itself, whatever follows.
      have hsur : isSurrogate c.toNat = false := by
        simp only [isSurrogate, Bool.and_eq_false_iff, decide_eq_false_iff_not]
        omega
      have hhigh : (decide (0xD800 ≤ c.toNat) && decide (c.toNat ≤ 0xDBFF)) = false := by
        simp only [Bool.and_eq_false_iff, decide_eq_false_iff_not]
        omega
      have hunits : codeUnits c = [c.toNat] := if_pos hplane
      rw [hunits]
      cases us with
      | nil => simp [combineUnits, hsur]
      | cons u us =>
          cases u with
          | inl d => simp [combineUnits, hsur]
          | inr m => simp [combineUnits, hsur, hhigh]
    · have hunits : codeUnits c =
          [0xD800 + (c.toNat - 0x10000) / 1024, 0xDC00 + (c.toNat - 0x10000) % 1024] :=
        if_neg hplane
      have hhigh : 0xD800 + (c.toNat - 0x10000) / 1024 ≤ 0xDBFF := by
        omega
      have hlow : 0xDC00 + (c.toNat - 0x10000) % 1024 ≤ 0xDFFF := by
        omega
      have hsum : 0x10000 + (c.toNat - 0x10000) / 1024 * 1024 + (c.toNat - 0x10000) % 1024 =
          c.toNat := by
        omega
      simp [hunits, combineUnits, hhigh, hlow, hsum]
  · simp [combineUnits]

theorem combineUnits_flatMap_asciiUnits (cs : List Char) :
    combineUnits (cs.flatMap asciiUnits) = cs := by
  induction cs with
  | nil => rfl
  | cons c cs ih => rw [List.flatMap_cons, combineUnits_asciiUnits, ih]

theorem parseString_ascii (s : String) (rest : List Char) :
    parseString (s.toList.flatMap asciiChar ++ '"' :: rest) = some (s, rest) := by
  simp [parseString, parseUnits_flatMap_asciiChar, combineUnits_flatMap_asciiUnits]

/-! ## Objects -/

theorem parseValue_dumpsValue (m : String × Option String) {fuel : ℕ} (hfuel : 0 < fuel)
    (rest : List Char) :
    parseValue fuel (' ' :: (dumpsValue m.2 ++ rest)) = some ((flatMember m).2, rest) := by
  rcases m with ⟨k, v⟩
  cases fuel with
  | zero => exact absurd hfuel (lt_irrefl 0)
  | succ fuel =>
      cases v with
      | none => simp [parseValue, dumpsValue, flatMember, skipSpace, isSpace]
      | some s =>
          simp [parseValue, dumpsValue, asciiString, flatMember, skipSpace, isSpace,
            parseString_ascii]

theorem parseMembers_space (fuel : ℕ) (cs : List Char) :
    parseMembers fuel (' ' :: cs) = parseMembers fuel cs := by
  cases fuel with
  | zero => rfl
  | succ fuel =>
      have hskip : skipSpace (' ' :: cs) = skipSpace cs := by
        simp [skipSpace, isSpace]
      rw [parseMembers, parseMembers, hskip]

theorem parseMembers_dumpsMembers (m : String × Option String)
    (ms : List (String × Option String)) {fuel : ℕ} (hfuel : ms.length + 1 < fuel)
    (rest : List Char) :
    parseMembers fuel (dumpsMembers (m :: ms) ++ rest) =
      some ((m :: ms).map flatMember, rest) := by
  induction ms generalizing m fuel with
  | nil =>
      cases fuel with
      | zero => simp at hfuel
      | succ fuel =>
          have hvalue := parseValue_dumpsValue m (Nat.lt_of_succ_lt_succ hfuel) ('\x7d' :: rest)
          simp [parseMembers, dumpsMembers, asciiString, parseString_ascii, hvalue,
            skipSpace_cons (c := '"') (by decide), skipSpace_cons (c := ':') (by decide),
            skipSpace_cons (c := '\x7d') (by decide)]
          rfl
  | cons n ms ih =>
      cases fuel with
      | zero => simp at hfuel
      | succ fuel =>
          have hfuel' : ms.length + 1 < fuel := Nat.lt_of_succ_lt_succ hfuel
          have hvalue := parseValue_dumpsValue m (Nat.zero_lt_of_lt hfuel')
            (',' :: ' ' :: (dumpsMembers (n :: ms) ++ rest))
          -- The reader skips the space behind the comma before it reads the next member.
          have hrest := parseMembers_space fuel (dumpsMembers (n :: ms) ++ rest)
          rw [ih n hfuel'] at hrest
          simp [parseMembers, dumpsMembers, asciiString, parseString_ascii, hvalue, hrest,
            skipSpace_cons (c := '"') (by decide), skipSpace_cons (c := ':') (by decide),
            skipSpace_cons (c := ',') (by decide)]
          rfl

theorem length_lt_dumpsMembers (m : String × Option String) (ms : List (String × Option String)) :
    (m :: ms).length < (dumpsMembers (m :: ms)).length := by
  induction ms generalizing m with
  | nil =>
      rw [dumpsMembers]
      simp only [asciiString, List.length_cons, List.length_append, List.length_nil]
      omega
  | cons n ms ih =>
      have hn := ih n
      rw [dumpsMembers]
      simp only [asciiString, List.length_cons, List.length_append] at hn ⊢
      omega

theorem dumpsMembers_cons (m : String × Option String) (ms : List (String × Option String)) :
    ∃ cs, dumpsMembers (m :: ms) = '"' :: cs := by
  cases ms with
  | nil => exact ⟨_, by rw [dumpsMembers, asciiString, List.cons_append]⟩
  | cons n ms => exact ⟨_, by rw [dumpsMembers, asciiString, List.cons_append]⟩

/-- What is written is read back. -/
theorem parse_dumps (ms : List (String × Option String)) :
    parse (dumps ms) = some (.obj (ms.map flatMember)) := by
  cases ms with
  | nil => rfl
  | cons m ms =>
      -- Every member takes a character, so the length of the text is fuel enough.
      have hread := parseMembers_dumpsMembers m ms (length_lt_dumpsMembers m ms) []
      rcases dumpsMembers_cons m ms with ⟨cs, hcs⟩
      rw [List.append_nil, hcs, List.length_cons] at hread
      have hnil : skipSpace [] = [] := rfl
      rw [parse, dumps, List.length_cons, hcs, List.length_cons, parseValue,
        skipSpace_cons (by decide)]
      simp [skipSpace_cons (c := '"') (by decide), hread, hnil]

end Base
end OpenRouter
