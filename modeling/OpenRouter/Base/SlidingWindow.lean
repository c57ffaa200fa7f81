import Mathlib.Algebra.Order.Group.Defs
import Mathlib.Algebra.Order.Group.Unbundled.Basic
import Mathlib.Data.List.Perm.Basic
import Mathlib.Order.Basic

/-!
# SlidingWindow — logs of admitted instants

The abstract object behind a sliding-window limiter is the log of the instants it admitted,
latest first.  `inWindow w t log` is the part of the log in the half-open window `(t - w, t]`.

A log is `Disciplined L w` when every instant was admitted while fewer than `L` earlier ones lay
in the window that ends at it, and instants never decrease.  The point of the discipline is
`Disciplined.length_inWindow_le`: checking the window that ends *now* at every admission bounds
every window, wherever it ends.
-/

namespace OpenRouter
namespace Base

variable {τ : Type*} [AddCommGroup τ] [LinearOrder τ] [IsOrderedAddMonoid τ]

/-! ## Windows of a log -/

/-- The entries of the log in the window `(t - w, t]`. -/
def inWindow (w t : τ) (log : List τ) : List τ :=
  log.filter fun a => decide (t - w < a ∧ a ≤ t)

/-- The entries of the log after `t - w`, whether or not they are after `t`. -/
def since (w t : τ) (log : List τ) : List τ :=
  log.filter fun a => decide (t - w < a)

omit [IsOrderedAddMonoid τ] in
theorem inWindow_eq_since {w t : τ} {log : List τ} (h : ∀ a ∈ log, a ≤ t) :
    inWindow w t log = since w t log := by
  refine List.filter_congr ?_
  intro a ha
  simp [h a ha]

omit [IsOrderedAddMonoid τ] in
theorem since_cons (w t a : τ) (log : List τ) :
    since w t (a :: log) = if t - w < a then a :: since w t log else since w t log := by
  by_cases h : t - w < a <;> simp [since, h]

theorem since_since {w t t' : τ} (h : t ≤ t') (log : List τ) :
    since w t' (since w t log) = since w t' log := by
  unfold since
  rw [List.filter_filter]
  refine List.filter_congr ?_
  intro a _
  by_cases ha : t' - w < a
  · have : t - w < a := lt_of_le_of_lt (sub_le_sub_right h w) ha
    simp [ha, this]
  · simp [ha]

theorem since_eq_nil {w t : τ} {log : List τ} (h : ∀ a ∈ log, a + w ≤ t) :
    since w t log = [] := by
  refine List.filter_eq_nil_iff.2 ?_
  intro a ha
  have : a ≤ t - w := le_sub_iff_add_le.2 (h a ha)
  simp [not_lt.2 this]

/-! ## The discipline -/

/-- A log, latest first, in which every instant found fewer than `L` earlier ones in the window
that ends at it. -/
inductive Disciplined (L : ℕ) (w : τ) : List τ → Prop where
  | nil : Disciplined L w []
  | push {a : τ} {log : List τ} :
      (∀ b ∈ log, b ≤ a) → (inWindow w a log).length < L →
      Disciplined L w log → Disciplined L w (a :: log)

/-- A window that ends no earlier than the latest instant sees no more of the older log than the
window that ends at that instant. -/
theorem inWindow_sublist_of_le {w t a : τ} {log : List τ} (hle : ∀ b ∈ log, b ≤ a) (hat : a ≤ t) :
    (inWindow w t log).Sublist (inWindow w a log) := by
  rw [inWindow_eq_since hle]
  refine List.monotone_filter_right _ ?_
  intro b hb
  simp only [decide_eq_true_eq] at hb ⊢
  exact lt_of_le_of_lt (sub_le_sub_right hat w) hb.1

omit [IsOrderedAddMonoid τ] in
theorem inWindow_cons_of_mem {w t a : τ} {log : List τ} (h : t - w < a ∧ a ≤ t) :
    inWindow w t (a :: log) = a :: inWindow w t log := by
  simp [inWindow, h]

omit [IsOrderedAddMonoid τ] in
theorem inWindow_cons_of_not_mem {w t a : τ} {log : List τ} (h : ¬ (t - w < a ∧ a ≤ t)) :
    inWindow w t (a :: log) = inWindow w t log := by
  simp only [inWindow]
  exact List.filter_cons_of_neg (by simpa using h)

namespace Disciplined

variable {L : ℕ} {w : τ} {log : List τ}

/-- Every window of a disciplined log holds at most `L` entries. -/
theorem length_inWindow_le (h : Disciplined L w log) (t : τ) :
    (inWindow w t log).length ≤ L := by
  induction h with
  | nil =>
      simp [inWindow]
  | @push a log hle hlt _ ih =>
      by_cases hmem : t - w < a ∧ a ≤ t
      · -- The window holds `a`: what it holds besides was already counted when `a` was pushed.
        have hsub : (inWindow w t log).length ≤ (inWindow w a log).length :=
          (inWindow_sublist_of_le hle hmem.2).length_le
        rw [inWindow_cons_of_mem hmem, List.length_cons]
        exact lt_of_le_of_lt hsub hlt
      · rw [inWindow_cons_of_not_mem hmem]
        exact ih

end Disciplined

end Base
end OpenRouter
