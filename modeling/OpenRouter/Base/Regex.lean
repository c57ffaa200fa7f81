import OpenRouter.Base.Separators

/-!
# Regex — backtracking search and substitution

A small fragment of the regular expressions of a backtracking engine: character classes,
concatenation, a greedy option and a greedy repetition of a class.  `rests` lists what is left
behind each match in the order in which the engine tries them, and `sub` is the leftmost,
non-overlapping replacement of the preferred matches.

`Free r w` says that no part of `w` matches `r`.  Behind brackets that cannot occur in a match,
a replacement leaves a text free (`free_sub`) and does not spoil that it is free of something else
(`free_sub_of_free`), and a text that is free is left alone (`sub_eq_self`).
-/

namespace OpenRouter
namespace Base

universe u

/-- A regular expression over characters of type `α`. -/
inductive Regex (α : Type u)
  | set (p : α → Bool)
  | seq (r s : Regex α)
  /-- `r?`, with `r` if possible. -/
  | opt (r : Regex α)
  /-- `[p]{n,}`, as many as possible. -/
  | atLeast (n : ℕ) (p : α → Bool)

namespace Regex

variable {α : Type u}

/-! ## Matches -/

/-- The whole text matches. -/
def Matches : Regex α → List α → Prop
  | set p, w => ∃ a, w = [a] ∧ p a = true
  | seq r s, w => ∃ x y, w = x ++ y ∧ r.Matches x ∧ s.Matches y
  | opt r, w => w = [] ∨ r.Matches w
  | atLeast n p, w => n ≤ w.length ∧ ∀ a ∈ w, p a = true

/-- The rests behind at least `n` characters of a class, the shortest rest first. -/
def restsAtLeast (p : α → Bool) : ℕ → List α → List (List α)
  | n, [] => if n = 0 then [[]] else []
  | n, a :: w =>
      (if p a then restsAtLeast p (n - 1) w else []) ++ if n = 0 then [a :: w] else []

/-- The rests behind the matches at the start of a text, in the order of preference. -/
def rests : Regex α → List α → List (List α)
  | set _, [] => []
  | set p, a :: w => if p a then [w] else []
  | seq r s, w => (r.rests w).flatMap s.rests
  | opt r, w => r.rests w ++ [w]
  | atLeast n p, w => restsAtLeast p n w

theorem mem_restsAtLeast {p : α → Bool} {n : ℕ} {w v : List α} :
    v ∈ restsAtLeast p n w ↔ ∃ x, w = x ++ v ∧ n ≤ x.length ∧ ∀ a ∈ x, p a = true := by
  induction w generalizing n with
  | nil =>
      constructor
      · intro h
        rw [restsAtLeast] at h
        split at h
        · rename_i hn
          exact ⟨[], by simpa [eq_comm] using h, by simp [hn], by simp⟩
        · cases h
      · rintro ⟨x, hw, hn, -⟩
        rcases List.append_eq_nil_iff.1 hw.symm with ⟨rfl, rfl⟩
        simp [restsAtLeast, Nat.le_zero.1 hn]
  | cons a w ih =>
      constructor
      · intro h
        rw [restsAtLeast, List.mem_append] at h
        rcases h with h | h
        · split at h
          · rename_i ha
            rcases ih.1 h with ⟨x, rfl, hn, hx⟩
            refine ⟨a :: x, rfl, ?_, ?_⟩
            · simpa using Nat.sub_le_iff_le_add.1 hn
            · simpa [ha] using hx
          · cases h
        · split at h
          · rename_i hn
            exact ⟨[], by simpa [eq_comm] using h, by simp [hn], by simp⟩
          · cases h
      · rintro ⟨x, hw, hn, hx⟩
        rw [restsAtLeast, List.mem_append]
        cases x with
        -- The repetition stops in front of `a`, or takes it.
        | nil =>
            right
            have hv : v = a :: w := hw.symm
            simp [Nat.le_zero.1 hn, hv]
        | cons b x =>
            left
            rw [List.cons_append, List.cons.injEq] at hw
            rcases hw with ⟨rfl, hw⟩
            rw [if_pos (hx a List.mem_cons_self)]
            refine ih.2 ⟨x, hw, ?_, fun c hc => hx c (List.mem_cons_of_mem a hc)⟩
            simpa [Nat.sub_le_iff_le_add] using hn

/-- The engine finds a rest if and only if what stands before it matches. -/
theorem mem_rests {r : Regex α} {w v : List α} :
    v ∈ r.rests w ↔ ∃ x, w = x ++ v ∧ r.Matches x := by
  induction r generalizing w v with
  | set p =>
      cases w with
      | nil => simp [rests, Matches]
      | cons a w =>
          constructor
          · intro h
            by_cases ha : p a = true
            · have hv : v = w := by simpa [rests, ha] using h
              exact ⟨[a], by simp [hv], a, rfl, ha⟩
            · simp [rests, ha] at h
          · rintro ⟨x, hw, b, rfl, hb⟩
            rw [List.singleton_append, List.cons.injEq] at hw
            rcases hw with ⟨rfl, rfl⟩
            simp [rests, hb]
  | seq r s ihr ihs =>
      rw [rests, List.mem_flatMap]
      constructor
      · rintro ⟨m, hm, hv⟩
        rcases ihr.1 hm with ⟨x, rfl, hx⟩
        rcases ihs.1 hv with ⟨y, rfl, hy⟩
        exact ⟨x ++ y, by simp, x, y, rfl, hx, hy⟩
      · rintro ⟨-, hw, x, y, rfl, hx, hy⟩
        exact ⟨y ++ v, ihr.2 ⟨x, by simpa using hw, hx⟩, ihs.2 ⟨y, rfl, hy⟩⟩
  | opt r ih =>
      rw [rests, List.mem_append, ih, List.mem_singleton]
      constructor
      · rintro (⟨x, hw, hx⟩ | rfl)
        · exact ⟨x, hw, Or.inr hx⟩
        · exact ⟨[], rfl, Or.inl rfl⟩
      · rintro ⟨x, hw, rfl | hx⟩
        · exact Or.inr hw.symm
        · exact Or.inl ⟨x, hw, hx⟩
  | atLeast n p =>
      exact mem_restsAtLeast

/-! ## Length and alphabet -/

/-- No match is shorter. -/
def minLength : Regex α → ℕ
  | set _ => 1
  | seq r s => r.minLength + s.minLength
  | opt _ => 0
  | atLeast n _ => n

/-- The characters that a match can have. -/
def alphabet : Regex α → α → Bool
  | set p, a => p a
  | seq r s, a => r.alphabet a || s.alphabet a
  | opt r, a => r.alphabet a
  | atLeast _ p, a => p a

theorem minLength_le {r : Regex α} {w : List α} (h : r.Matches w) : r.minLength ≤ w.length := by
  induction r generalizing w with
  | set p =>
      rcases h with ⟨a, rfl, -⟩
      exact Nat.le_refl 1
  | seq r s ihr ihs =>
      rcases h with ⟨x, y, rfl, hx, hy⟩
      rw [List.length_append]
      exact Nat.add_le_add (ihr hx) (ihs hy)
  | opt r ih =>
      exact Nat.zero_le _
  | atLeast n p =>
      exact h.1

theorem alphabet_of_mem {r : Regex α} {w : List α} (h : r.Matches w) {a : α} (ha : a ∈ w) :
    r.alphabet a = true := by
  induction r generalizing w with
  | set p =>
      rcases h with ⟨b, rfl, hb⟩
      rw [List.mem_singleton.1 ha]
      exact hb
  | seq r s ihr ihs =>
      rcases h with ⟨x, y, rfl, hx, hy⟩
      rw [alphabet, Bool.or_eq_true]
      rcases List.mem_append.1 ha with ha | ha
      · exact Or.inl (ihr hx ha)
      · exact Or.inr (ihs hy ha)
  | opt r ih =>
      rcases h with rfl | h
      · cases ha
      · exact ih h ha
  | atLeast n p =>
      exact h.2 a ha

theorem not_mem_of_alphabet {r : Regex α} {w : List α} (h : r.Matches w) {a : α}
    (ha : r.alphabet a = false) : a ∉ w := by
  intro hmem
  rw [alphabet_of_mem h hmem] at ha
  cases ha

/-! ## Texts without a match -/

/-- No part of the text matches. -/
def Free (r : Regex α) (w : List α) : Prop :=
  ∀ x, x <:+: w → ¬ r.Matches x

variable {r : Regex α}

/-- A text with none of the characters that every match has one of. -/
theorem free_of_lacks {p : α → Bool} {w : List α}
    (hneeds : ∀ x, r.Matches x → ∃ a ∈ x, p a = true) (hlacks : w.any p = false) :
    r.Free w := by
  intro x hx hmatch
  rcases hneeds x hmatch with ⟨a, ha, hpa⟩
  exact List.any_eq_false.1 hlacks a (hx.subset ha) hpa

end Regex

/-! ## Substitution -/

/-- A regular expression that does not match the empty text. -/
structure Pattern (α : Type u) where
  regex : Regex α
  proper : 0 < regex.minLength

namespace Pattern

variable {α : Type u}

/-- `sub` behind the next `skip` characters. -/
def subFrom (P : Pattern α) (repl : List α) : ℕ → List α → List α
  | _, [] => []
  | skip + 1, _ :: w => P.subFrom repl skip w
  | 0, a :: w =>
      match (P.regex.rests (a :: w)).head? with
      | some v => repl ++ P.subFrom repl (w.length - v.length) w
      | none => a :: P.subFrom repl 0 w

/-- Replace the matches from left to right; each search goes on behind the last match. -/
def sub (P : Pattern α) (repl w : List α) : List α :=
  P.subFrom repl 0 w

variable {P : Pattern α} {repl : List α}

theorem subFrom_eq_sub_drop (k : ℕ) (w : List α) :
    P.subFrom repl k w = P.sub repl (w.drop k) := by
  induction w generalizing k with
  | nil =>
      cases k <;> rfl
  | cons a w ih =>
      cases k with
      | zero => rfl
      | succ k => exact ih k

/-- What is left behind a match is a proper rest. -/
theorem exists_of_mem_rests {a : α} {w v : List α} (h : v ∈ P.regex.rests (a :: w)) :
    ∃ x, w = x ++ v ∧ P.regex.Matches (a :: x) := by
  rcases Regex.mem_rests.1 h with ⟨x, hw, hx⟩
  cases x with
  -- An empty match is shorter than a proper pattern allows.
  | nil =>
      have hlen := Regex.minLength_le hx
      exact absurd P.proper (by simpa using hlen)
  | cons b x =>
      rw [List.cons_append, List.cons.injEq] at hw
      rcases hw with ⟨rfl, rfl⟩
      exact ⟨x, rfl, hx⟩

/-- Without a match at the first character, the character stays. -/
theorem sub_cons_of_none {a : α} {w : List α} (h : P.regex.rests (a :: w) = []) :
    P.sub repl (a :: w) = a :: P.sub repl w := by
  simp [sub, subFrom, h]

/-- A match at the first character is replaced, and the search goes on behind it. -/
theorem sub_cons_of_match {a : α} {w v : List α} {vs : List (List α)}
    (h : P.regex.rests (a :: w) = v :: vs) : P.sub repl (a :: w) = repl ++ P.sub repl v := by
  have hmem : v ∈ P.regex.rests (a :: w) := by simp [h]
  rcases exists_of_mem_rests hmem with ⟨x, rfl, -⟩
  have hskip : (x ++ v).drop ((x ++ v).length - v.length) = v := by
    rw [List.length_append, Nat.add_sub_cancel, List.drop_left]
  simp only [sub, subFrom, h, List.head?_cons]
  rw [subFrom_eq_sub_drop, hskip, sub]

/-- The two ways in which a substitution proceeds. -/
theorem sub_induction {motive : List α → List α → Prop} (repl : List α)
    (nil : motive [] [])
    (keep : ∀ a w, P.regex.rests (a :: w) = [] → motive w (P.sub repl w) →
      motive (a :: w) (a :: P.sub repl w))
    (replace : ∀ a x v, P.regex.Matches (a :: x) → motive v (P.sub repl v) →
      motive (a :: (x ++ v)) (repl ++ P.sub repl v)) (w : List α) :
    motive w (P.sub repl w) := by
  -- The induction is on the length: a match takes several characters at once.
  induction hn : w.length using Nat.strong_induction_on generalizing w with
  | _ n ih =>
      cases w with
      | nil => exact nil
      | cons a w =>
          cases hrests : P.regex.rests (a :: w) with
          | nil =>
              rw [sub_cons_of_none hrests]
              exact keep a w hrests (ih w.length (by simp [← hn]) w rfl)
          | cons v vs =>
              rw [sub_cons_of_match hrests]
              have hmem : v ∈ P.regex.rests (a :: w) := by simp [hrests]
              rcases exists_of_mem_rests hmem with ⟨x, rfl, hx⟩
              refine replace a x v hx (ih v.length ?_ v rfl)
              rw [← hn, List.length_cons, List.length_append]
              omega

/-- A text without a match stays as it is. -/
theorem sub_eq_self {w : List α} (h : P.regex.Free w) : P.sub repl w = w := by
  induction w with
  | nil =>
      rfl
  | cons a w ih =>
      have hnone : P.regex.rests (a :: w) = [] := by
        refine List.eq_nil_iff_forall_not_mem.2 fun v hv => ?_
        rcases exists_of_mem_rests hv with ⟨x, rfl, hx⟩
        exact h (a :: x) ⟨[], v, rfl⟩ hx
      have hrest : P.regex.Free w := fun x hx => h x (List.infix_cons hx)
      rw [sub_cons_of_none hnone, ih hrest]

/-! ## Bracketed replacements -/

variable {b b' : α} {inner : List α}

/-- A part of a text that holds no bracket is in a bracketed text in front, or behind it. -/
theorem infix_or_infix_of_infix_bracketed {x rest : List α}
    (h : x <:+: (b :: (inner ++ [b'])) ++ rest) (hb : b ∉ x) (hb' : b' ∉ x) :
    x <:+: inner ∨ x <:+: rest := by
  have hsplit : x <:+: [] ++ b :: (inner ++ b' :: rest) := by simpa using h
  rcases infix_or_infix_of_infix_append_cons hsplit hb with hleft | hright
  · exact Or.inl (hleft.trans List.nil_infix)
  · exact infix_or_infix_of_infix_append_cons hright hb'

/-- What starts the text behind a substitution and does not reach a bracket started it before. -/
theorem prefix_of_prefix_sub {x w : List α} (h : x <+: P.sub (b :: (inner ++ [b'])) w)
    (hb : b ∉ x) : x <+: w := by
  refine sub_induction (motive := fun w out => ∀ x, x <+: out → b ∉ x → x <+: w) _
    ?_ ?_ ?_ w x h hb
  · intro x h _
    exact h
  · -- The first character was kept, so that the rest is a prefix of a substitution again.
    intro a w _ ih x h hb
    cases x with
    | nil => exact List.nil_prefix
    | cons c x =>
        rcases List.cons_prefix_cons.1 h with ⟨rfl, hx⟩
        have hrest : b ∉ x := fun hmem => hb (List.mem_cons_of_mem c hmem)
        exact List.cons_prefix_cons.2 ⟨rfl, ih x hx hrest⟩
  · -- The replacement begins with the bracket.
    intro a y v _ _ x h hb
    have hempty : x <+: [] := prefix_of_prefix_append_cons (y := []) h hb
    rw [List.prefix_nil.1 hempty]
    exact List.nil_prefix

/-- A part of the text behind a substitution that holds no bracket was in the text before, or is in
a replacement. -/
theorem infix_of_infix_sub {x w : List α} (h : x <:+: P.sub (b :: (inner ++ [b'])) w)
    (hb : b ∉ x) (hb' : b' ∉ x) : x <:+: w ∨ x <:+: inner := by
  revert h
  refine sub_induction (motive := fun w out => x <:+: out → x <:+: w ∨ x <:+: inner) _ ?_ ?_ ?_ w
  · exact fun h => Or.inl h
  · intro a w hnone ih h
    rcases List.infix_cons_iff.1 h with hpre | hinf
    · left
      have hsub : x <+: P.sub (b :: (inner ++ [b'])) (a :: w) := by
        rw [sub_cons_of_none hnone]
        exact hpre
      exact (prefix_of_prefix_sub hsub hb).isInfix
    · exact (ih hinf).imp List.infix_cons id
  · intro a y v _ ih h
    rcases infix_or_infix_of_infix_bracketed h hb hb' with hinner | hrest
    · exact Or.inr hinner
    · -- What is left of the match is a suffix of the text.
      refine (ih hrest).imp_left fun hv => hv.trans ?_
      exact ⟨a :: y, [], by simp⟩

/-- What no part of the text and of the replacement matches, no part matches afterwards. -/
theorem free_sub_of_free {r : Regex α} {w : List α} (hw : r.Free w) (hinner : r.Free inner)
    (hb : r.alphabet b = false) (hb' : r.alphabet b' = false) :
    r.Free (P.sub (b :: (inner ++ [b'])) w) := by
  intro x hx hmatch
  have hout : b ∉ x := Regex.not_mem_of_alphabet hmatch hb
  have hout' : b' ∉ x := Regex.not_mem_of_alphabet hmatch hb'
  rcases infix_of_infix_sub hx hout hout' with hold | hnew
  · exact hw x hold hmatch
  · exact hinner x hnew hmatch

/-- Nothing is left that matches the pattern. -/
theorem free_sub {w : List α} (hinner : P.regex.Free inner) (hb : P.regex.alphabet b = false)
    (hb' : P.regex.alphabet b' = false) :
    P.regex.Free (P.sub (b :: (inner ++ [b'])) w) := by
  refine sub_induction (motive := fun _ out => P.regex.Free out) _ ?_ ?_ ?_ w
  · intro x hx hmatch
    rw [List.infix_nil.1 hx] at hmatch
    exact absurd (Regex.minLength_le hmatch) (Nat.not_le.2 P.proper)
  · intro a w hnone ih x hx hmatch
    rcases List.infix_cons_iff.1 hx with hpre | hinf
    · -- The match was there before, and the search had not found it.
      have hsub : x <+: P.sub (b :: (inner ++ [b'])) (a :: w) := by
        rw [sub_cons_of_none hnone]
        exact hpre
      rcases prefix_of_prefix_sub hsub (Regex.not_mem_of_alphabet hmatch hb) with ⟨v, hv⟩
      have hmem : v ∈ P.regex.rests (a :: w) := Regex.mem_rests.2 ⟨x, hv.symm, hmatch⟩
      rw [hnone] at hmem
      cases hmem
    · exact ih x hinf hmatch
  · intro a y v _ ih x hx hmatch
    have hout : b ∉ x := Regex.not_mem_of_alphabet hmatch hb
    have hout' : b' ∉ x := Regex.not_mem_of_alphabet hmatch hb'
    -- No match reaches over a bracket, so it is in the replacement or behind it.
    rcases infix_or_infix_of_infix_bracketed hx hout hout' with hin | hrest
    · exact hinner x hin hmatch
    · exact ih x hrest hmatch

end Pattern
end Base
end OpenRouter
