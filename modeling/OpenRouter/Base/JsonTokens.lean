import OpenRouter.Base.Json

/-!
# JsonTokens — what a JSON text is made of

A text that `parse` reads is white space and tokens, one behind the other, and no token has a
control character in it.  `of_parse` is the rule that goes with it: what holds of white space and
of tokens, and of two texts in a row if it holds of each, holds of every JSON text.
-/

namespace OpenRouter
namespace Base

/-- Space, or the first character of a token. -/
def startsToken (c : Char) : Bool :=
  isSpace c || isDigit c ||
    ['"', '-', '[', ']', '\x7b', '\x7d', ':', ',', 't', 'f', 'n'].contains c

/-- A property that a text has if its white space and its tokens have it. -/
structure Tokenwise (P : List Char → Prop) : Prop where
  append : ∀ {as bs}, P as → P bs → P (as ++ bs)
  spaces : ∀ {cs}, (∀ c ∈ cs, isSpace c = true) → P cs
  token : ∀ {c cs}, startsToken c = true → (∀ d ∈ c :: cs, 32 ≤ d.toNat) → P (c :: cs)

/-! ## What the reader takes -/

/-- What is taken off the front of a text has the property. -/
def Takes (P : List Char → Prop) (cs rest : List Char) : Prop :=
  ∃ taken, cs = taken ++ rest ∧ P taken

variable {P : List Char → Prop}

namespace Takes

variable {cs cs' rest : List Char}

theorem trans (hP : Tokenwise P) (h : Takes P cs cs') (h' : Takes P cs' rest) :
    Takes P cs rest := by
  rcases h with ⟨taken, rfl, htaken⟩
  rcases h' with ⟨taken', rfl, htaken'⟩
  exact ⟨taken ++ taken', (List.append_assoc ..).symm, hP.append htaken htaken'⟩

theorem skipSpace (hP : Tokenwise P) (cs : List Char) : Takes P cs (skipSpace cs) := by
  refine ⟨cs.takeWhile isSpace, (List.takeWhile_append_dropWhile ..).symm, hP.spaces ?_⟩
  intro c hc
  exact List.mem_takeWhile_imp hc

/-- One character that is a token of its own. -/
theorem token (hP : Tokenwise P) {c : Char} (hc : startsToken c = true) (hclean : 32 ≤ c.toNat) :
    Takes P (c :: cs) cs :=
  ⟨[c], rfl, hP.token hc (by simpa using hclean)⟩

/-- Through the space in front of a token of one character, and the token. -/
theorem spacedToken (hP : Tokenwise P) {c : Char} (hc : startsToken c = true)
    (hclean : 32 ≤ c.toNat) (h : Base.skipSpace cs = c :: rest) : Takes P cs rest :=
  (skipSpace hP cs).trans hP (h ▸ token hP hc hclean)

end Takes

theorem clean_of_hexValue4 {a b c d : Char} {n : ℕ} (h : hexValue4 a b c d = some n) :
    ∀ x ∈ [a, b, c, d], 32 ≤ x.toNat := by
  rcases Option.bind_eq_some_iff.1 h with ⟨w, hw, h⟩
  rcases Option.bind_eq_some_iff.1 h with ⟨x, hx, h⟩
  rcases Option.bind_eq_some_iff.1 h with ⟨y, hy, h⟩
  rcases Option.bind_eq_some_iff.1 h with ⟨z, hz, -⟩
  have hclean : ∀ {e : Char} {v : ℕ}, hexValue e = some v → 32 ≤ e.toNat := by
    intro e v he
    by_contra hctl
    have hnone : ∀ n < 32, hexValue (Char.ofNat n) = none := by decide
    have hsame := hnone e.toNat (Nat.not_le.1 hctl)
    rw [Char.ofNat_toNat, he] at hsame
    cases hsame
  simp only [List.forall_mem_cons, List.not_mem_nil, false_imp_iff, implies_true, and_true]
  exact ⟨hclean hw, hclean hx, hclean hy, hclean hz⟩

/-- A string has no raw control character. -/
theorem clean_of_parseUnits {cs rest : List Char} {us : List (Char ⊕ ℕ)}
    (h : parseUnits cs = some (us, rest)) :
    ∃ taken, cs = taken ++ rest ∧ ∀ c ∈ taken, 32 ≤ c.toNat := by
  fun_induction parseUnits cs generalizing us with
  | case1 => cases h
  | case2 cs =>
      cases h
      exact ⟨['"'], rfl, printable_of_all rfl⟩
  | case3 a b c d cs n us' rest' hunits hhex ih =>
      cases h
      rcases ih hunits with ⟨taken, rfl, hclean⟩
      refine ⟨'\\' :: 'u' :: ([a, b, c, d] ++ taken), by simp, ?_⟩
      have hescape := List.forall_mem_append.2 ⟨clean_of_hexValue4 hhex, hclean⟩
      exact List.forall_mem_cons.2 ⟨by decide, List.forall_mem_cons.2 ⟨by decide, hescape⟩⟩
  | case5 e cs _ c us' rest' hunits hescape ih =>
      cases h
      rcases ih hunits with ⟨taken, rfl, hclean⟩
      refine ⟨'\\' :: e :: taken, rfl, ?_⟩
      have he : 32 ≤ e.toNat := by
        by_contra hctl
        have hnone : ∀ n < 32, shortUnescape (Char.ofNat n) = none := by decide
        have hsame := hnone e.toNat (Nat.not_le.1 hctl)
        rw [Char.ofNat_toNat, hescape] at hsame
        cases hsame
      exact List.forall_mem_cons.2 ⟨by decide, List.forall_mem_cons.2 ⟨he, hclean⟩⟩
  | case8 c cs _ _ _ hctl us' rest' hunits ih =>
      cases h
      rcases ih hunits with ⟨taken, rfl, hclean⟩
      exact ⟨c :: taken, rfl, List.forall_mem_cons.2 ⟨Nat.not_lt.1 hctl, hclean⟩⟩
  | case4 | case6 | case7 | case9 => cases h

theorem clean_of_isNumberChar {c : Char} (h : isNumberChar c = true) : 32 ≤ c.toNat := by
  by_contra hctl
  have hnone : ∀ n < 32, isNumberChar (Char.ofNat n) = false := by decide
  have hsame := hnone c.toNat (Nat.not_le.1 hctl)
  rw [Char.ofNat_toNat, h] at hsame
  cases hsame

namespace Takes

variable {cs rest : List Char}

theorem string (hP : Tokenwise P) {s : String} (h : parseString cs = some (s, rest)) :
    Takes P ('"' :: cs) rest := by
  rcases Option.map_eq_some_iff.1 h with ⟨⟨us, rest'⟩, hunits, hsame⟩
  cases hsame
  rcases clean_of_parseUnits hunits with ⟨taken, rfl, hclean⟩
  exact ⟨'"' :: taken, rfl,
    hP.token (by decide) (List.forall_mem_cons.2 ⟨by decide, hclean⟩)⟩

theorem number (hP : Tokenwise P) {j : Json} (h : parseNumber cs = some (j, rest)) :
    Takes P cs rest := by
  unfold parseNumber at h
  split at h
  · rename_i hnumber
    cases h
    rcases head_of_isNumber hnumber with ⟨c, ds, htake, hc⟩
    refine ⟨c :: ds, by rw [← htake, List.takeWhile_append_dropWhile], hP.token ?_ ?_⟩
    · rcases hc with hc | rfl
      · simp [startsToken, hc]
      · decide
    · rw [← htake]
      exact fun d hd => clean_of_isNumberChar (isNumberChar_of_isNumber hnumber d hd)
  · cases h

/-- A literal name. -/
theorem literal (hP : Tokenwise P) {c : Char} (name : List Char) (hc : startsToken c = true)
    (hname : Printable (c :: name)) (h : Base.skipSpace cs = c :: (name ++ rest)) :
    Takes P cs rest := by
  refine (skipSpace hP cs).trans hP ⟨c :: name, ?_, hP.token hc hname⟩
  rw [h, List.cons_append]

end Takes

section Step

variable {fuel : ℕ}

theorem takes_parseValue (hP : Tokenwise P)
    (helems : ∀ cs xs rest, parseElems fuel cs = some (xs, rest) → Takes P cs rest)
    (hmembers : ∀ cs ms rest, parseMembers fuel cs = some (ms, rest) → Takes P cs rest)
    {cs : List Char} {j : Json} {rest : List Char}
    (h : parseValue (fuel + 1) cs = some (j, rest)) : Takes P cs rest := by
  rw [parseValue] at h
  split at h
  · rename_i rest' hcs
    cases h
    exact Takes.literal hP ['u', 'l', 'l'] (by decide) (printable_of_all rfl) hcs
  · rename_i rest' hcs
    cases h
    exact Takes.literal hP ['r', 'u', 'e'] (by decide) (printable_of_all rfl) hcs
  · rename_i rest' hcs
    cases h
    exact Takes.literal hP ['a', 'l', 's', 'e'] (by decide) (printable_of_all rfl) hcs
  · rename_i rest' hcs
    rcases Option.map_eq_some_iff.1 h with ⟨⟨s, rest''⟩, hstring, hsame⟩
    cases hsame
    exact (Takes.skipSpace hP cs).trans hP (hcs ▸ Takes.string hP hstring)
  -- An array and an object may close at once.
  · rename_i rest' hcs
    refine (Takes.spacedToken hP (by decide) (by decide) hcs).trans hP ?_
    split at h
    · rename_i rest'' hclose
      cases h
      exact Takes.spacedToken hP (by decide) (by decide) hclose
    · rcases Option.map_eq_some_iff.1 h with ⟨⟨xs, rest''⟩, hread, hsame⟩
      cases hsame
      exact helems _ _ _ hread
  · rename_i rest' hcs
    refine (Takes.spacedToken hP (by decide) (by decide) hcs).trans hP ?_
    split at h
    · rename_i rest'' hclose
      cases h
      exact Takes.spacedToken hP (by decide) (by decide) hclose
    · rcases Option.map_eq_some_iff.1 h with ⟨⟨ms, rest''⟩, hread, hsame⟩
      cases hsame
      exact hmembers _ _ _ hread
  · exact (Takes.skipSpace hP cs).trans hP (Takes.number hP h)

theorem takes_parseElems (hP : Tokenwise P)
    (hvalue : ∀ cs j rest, parseValue fuel cs = some (j, rest) → Takes P cs rest)
    (helems : ∀ cs xs rest, parseElems fuel cs = some (xs, rest) → Takes P cs rest)
    {cs : List Char} {xs : List Json} {rest : List Char}
    (h : parseElems (fuel + 1) cs = some (xs, rest)) : Takes P cs rest := by
  rw [parseElems] at h
  split at h
  · cases h
  · rename_i x rest' hread
    refine (hvalue _ _ _ hread).trans hP ?_
    split at h
    · rename_i rest'' hcomma
      rcases Option.map_eq_some_iff.1 h with ⟨⟨xs', rest'''⟩, hrest, hsame⟩
      cases hsame
      have htoken := Takes.spacedToken hP (by decide) (by decide) hcomma
      exact htoken.trans hP (helems _ _ _ hrest)
    · rename_i rest'' hclose
      cases h
      exact Takes.spacedToken hP (by decide) (by decide) hclose
    · cases h

theorem takes_parseMembers (hP : Tokenwise P)
    (hvalue : ∀ cs j rest, parseValue fuel cs = some (j, rest) → Takes P cs rest)
    (hmembers : ∀ cs ms rest, parseMembers fuel cs = some (ms, rest) → Takes P cs rest)
    {cs : List Char} {ms : List (String × Json)} {rest : List Char}
    (h : parseMembers (fuel + 1) cs = some (ms, rest)) : Takes P cs rest := by
  rw [parseMembers] at h
  split at h
  · rename_i rest' hquote
    split at h
    · cases h
    · rename_i k rest₁ hkey
      have hreadKey : Takes P cs rest₁ :=
        (Takes.skipSpace hP cs).trans hP (hquote ▸ Takes.string hP hkey)
      refine hreadKey.trans hP ?_
      split at h
      · rename_i rest₂ hcolon
        refine (Takes.spacedToken hP (by decide) (by decide) hcolon).trans hP ?_
        split at h
        · cases h
        · rename_i v rest₃ hread
          refine (hvalue _ _ _ hread).trans hP ?_
          split at h
          · rename_i rest₄ hcomma
            rcases Option.map_eq_some_iff.1 h with ⟨⟨ms', rest'''⟩, hrest, hsame⟩
            cases hsame
            have htoken := Takes.spacedToken hP (by decide) (by decide) hcomma
            exact htoken.trans hP (hmembers _ _ _ hrest)
          · rename_i rest₄ hclose
            cases h
            exact Takes.spacedToken hP (by decide) (by decide) hclose
          · cases h
      · cases h
  · cases h

end Step

/-- A value, the elements of an array and the members of an object, by the fuel of the reader. -/
theorem takes_of_parse (hP : Tokenwise P) (fuel : ℕ) :
    (∀ cs j rest, parseValue fuel cs = some (j, rest) → Takes P cs rest) ∧
      (∀ cs xs rest, parseElems fuel cs = some (xs, rest) → Takes P cs rest) ∧
      ∀ cs ms rest, parseMembers fuel cs = some (ms, rest) → Takes P cs rest := by
  induction fuel with
  | zero =>
      refine ⟨?_, ?_, ?_⟩ <;> intro cs v rest h <;> cases h
  | succ fuel ih =>
      rcases ih with ⟨hvalue, helems, hmembers⟩
      refine ⟨?_, ?_, ?_⟩
      · intro cs j rest h
        exact takes_parseValue hP helems hmembers h
      · intro cs xs rest h
        exact takes_parseElems hP hvalue helems h
      · intro cs ms rest h
        exact takes_parseMembers hP hvalue hmembers h

/-- A JSON text has every property that goes by its tokens. -/
theorem of_parse (hP : Tokenwise P) {cs : List Char} {j : Json} (h : parse cs = some j) :
    P cs := by
  unfold parse at h
  split at h
  · rename_i j' rest hvalue
    split at h
    · rename_i hspace
      rcases (takes_of_parse hP cs.length).1 _ _ _ hvalue with ⟨taken, hcs, htaken⟩
      have hrest : P rest := by
        refine hP.spaces fun c hc => ?_
        exact List.dropWhile_eq_nil_iff.1 hspace c hc
      rw [hcs]
      exact hP.append htaken hrest
    · cases h
  · cases h

/-! ## Control characters -/

theorem tokenwise_noControl : Tokenwise fun cs => ∀ c ∈ cs, isSpace c = true ∨ 32 ≤ c.toNat where
  append has hbs := List.forall_mem_append.2 ⟨has, hbs⟩
  spaces h c hc := Or.inl (h c hc)
  token _ hclean c hc := Or.inr (hclean c hc)

/-- The only control characters of a JSON text are white space. -/
theorem noControl_of_parse {cs : List Char} {j : Json} (h : parse cs = some j) :
    ∀ c ∈ cs, isSpace c = true ∨ 32 ≤ c.toNat :=
  of_parse tokenwise_noControl h

end Base
end OpenRouter
