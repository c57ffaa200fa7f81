import Mathlib.Data.List.Infix

/-!
# Separators — lists around a separator, and patterns in them

Two lists that are cut at a separator are the same only if their parts are, where the separator is
the first one (`append_separator_inj`) or the last one (`append_separator_inj_right`).  A part of a
list without the separator lies on one side of it.  `occurrences` counts the places where a pattern
begins.
-/

namespace OpenRouter
namespace Base

universe u

variable {α : Type u}

/-! ## Cuts at a separator -/

/-- What is in front of the first separator, and what is behind it. -/
theorem append_separator_inj {a : α} {l l' r r' : List α} (hl : a ∉ l) (hl' : a ∉ l')
    (h : l ++ a :: r = l' ++ a :: r') : l = l' ∧ r = r' := by
  rcases List.append_eq_append_iff.1 h with ⟨c, hc, hr⟩ | ⟨c, hc, hr⟩
  · cases c with
    | nil =>
        cases hr
        exact ⟨by simpa using hc.symm, rfl⟩
    | cons b c =>
        cases hr
        exact absurd (by simp [hc]) hl'
  · cases c with
    | nil =>
        cases hr
        exact ⟨by simpa using hc, rfl⟩
    | cons b c =>
        cases hr
        exact absurd (by simp [hc]) hl

/-- The same of the last separator. -/
theorem append_separator_inj_right {a : α} {l l' r r' : List α} (hr : a ∉ r) (hr' : a ∉ r')
    (h : l ++ a :: r = l' ++ a :: r') : l = l' ∧ r = r' := by
  have hreverse : r.reverse ++ a :: l.reverse = r'.reverse ++ a :: l'.reverse := by
    simpa using congrArg List.reverse h
  rcases append_separator_inj (by simpa using hr) (by simpa using hr') hreverse with ⟨hright, hleft⟩
  exact ⟨List.reverse_injective hleft, List.reverse_injective hright⟩

/-- A prefix with a separator has the same in front of it. -/
theorem eq_of_prefix_separator {a : α} {l l' r r' : List α} (hl : a ∉ l) (hl' : a ∉ l')
    (h : l ++ a :: r <+: l' ++ a :: r') : l = l' := by
  rcases h with ⟨rest, hrest⟩
  rw [List.append_assoc, List.cons_append] at hrest
  exact (append_separator_inj hl hl' hrest).1

/-! ## Parts without the separator -/

/-- A prefix that does not hold the separator ends before it. -/
theorem prefix_of_prefix_append_cons {b : α} {x y z : List α} (h : x <+: y ++ b :: z)
    (hb : b ∉ x) : x <+: y := by
  rcases List.prefix_or_prefix_of_prefix h (List.prefix_append y (b :: z)) with hx | ⟨t, rfl⟩
  · exact hx
  · rw [List.prefix_append_right_inj] at h
    cases t with
    | nil => simp
    | cons c t =>
        have hc : c = b := (List.cons_prefix_cons.1 h).1
        simp [hc] at hb

/-- A part of a text that does not hold the separator lies on one side of it. -/
theorem infix_or_infix_of_infix_append_cons {b : α} {x y z : List α} (h : x <:+: y ++ b :: z)
    (hb : b ∉ x) : x <:+: y ∨ x <:+: z := by
  induction y with
  | nil =>
      rcases List.infix_cons_iff.1 h with hpre | hinf
      · have hempty : x <+: [] := prefix_of_prefix_append_cons (y := []) hpre hb
        exact Or.inl hempty.isInfix
      · exact Or.inr hinf
  | cons c y ih =>
      rcases List.infix_cons_iff.1 h with hpre | hinf
      · exact Or.inl (prefix_of_prefix_append_cons (y := c :: y) hpre hb).isInfix
      · exact (ih hinf).imp List.infix_cons id

/-! ## Occurrences of a pattern -/

section Occurrences

variable [DecidableEq α]

/-- At how many places of a list a pattern begins. -/
def occurrences (pat : List α) : List α → ℕ
  | [] => 0
  | a :: l => (if pat <+: a :: l then 1 else 0) + occurrences pat l

theorem occurrences_of_not_prefix {pat l : List α} {a : α} (h : ¬ pat <+: a :: l) :
    occurrences pat (a :: l) = occurrences pat l := by
  rw [occurrences, if_neg h, Nat.zero_add]

/-- A list without the first element of the pattern begins none. -/
theorem occurrences_append_of_not_mem {a : α} {pat l : List α} (h : a ∉ l) (rest : List α) :
    occurrences (a :: pat) (l ++ rest) = occurrences (a :: pat) rest := by
  induction l with
  | nil => rfl
  | cons b l ih =>
      rw [List.mem_cons, not_or] at h
      have hhead : ¬ a :: pat <+: b :: (l ++ rest) := fun hprefix =>
        h.1 (List.cons_prefix_cons.1 hprefix).1
      rw [List.cons_append, occurrences_of_not_prefix hhead, ih h.2]

/-- A pattern that has its first element once does not overlap itself. -/
theorem occurrences_self_append {a : α} {pat : List α} (h : a ∉ pat) (rest : List α) :
    occurrences (a :: pat) (a :: pat ++ rest) = 1 + occurrences (a :: pat) rest := by
  have hhere : a :: pat <+: a :: (pat ++ rest) := List.prefix_append (a :: pat) rest
  rw [List.cons_append, occurrences, if_pos hhere, occurrences_append_of_not_mem h]

end Occurrences

end Base
end OpenRouter
