import Mathlib.Data.List.Basic
import Mathlib.Order.Lattice

/-!
# StableSort — a sort by keys leaves ties in their order

`pairwise_mergeSort_of_key`: after a sort by a key, of two elements the one in front has the smaller
key, or the same key and the earlier place.  `exists_mergeSort_of_key` is the same for the images of
the elements, which need not tell equal ones apart.

A key that is coarser than another one gives the same order exactly when the elements it does not
tell apart are in order already (`mergeSort_coarse_eq_iff`).
-/

namespace OpenRouter
namespace Base

theorem pairwise_zipIdx {α : Type} (l : List α) (n : ℕ) :
    (l.zipIdx n).Pairwise fun p q => p.2 < q.2 := by
  induction l generalizing n with
  | nil => exact List.Pairwise.nil
  | cons a l ih =>
      refine List.pairwise_cons.2 ⟨?_, ih (n + 1)⟩
      rintro ⟨b, i⟩ hb
      have hbound := List.le_snd_of_mem_zipIdx hb
      exact hbound

theorem nodup_zipIdx {α : Type} (l : List α) : l.zipIdx.Nodup :=
  (pairwise_zipIdx l 0).imp fun hlt heq => absurd (heq ▸ hlt) (Nat.lt_irrefl _)

/-- The members of a sorted list, each with its place in the list that was sorted. -/
theorem pairwise_mergeSort_of_key {α β : Type} [LinearOrder β] (key : α → β)
    {before : α → α → Prop} {l : List α} (hl : l.Pairwise before) :
    (l.mergeSort fun a b => decide (key a ≤ key b)).Pairwise fun a b =>
      key a < key b ∨ key a = key b ∧ before a b := by
  let le : α → α → Bool := fun a b => decide (key a ≤ key b)
  have htrans : ∀ a b c, le a b = true → le b c = true → le a c = true := by
    intro a b c hab hbc
    simp only [le, decide_eq_true_eq] at hab hbc ⊢
    exact hab.trans hbc
  have htotal : ∀ a b, (le a b || le b a) = true := by
    intro a b
    simpa [le] using le_total (key a) (key b)
  have hsorted := List.pairwise_mergeSort (List.zipIdxLE_trans htrans)
    (List.zipIdxLE_total htotal) l.zipIdx
  have hnodup : (l.zipIdx.mergeSort (List.zipIdxLE le)).Nodup :=
    (List.mergeSort_perm _ _).nodup_iff.2 (nodup_zipIdx l)
  rw [← List.mergeSort_zipIdx, List.pairwise_map]
  refine (hsorted.and hnodup).imp_of_mem ?_
  rintro ⟨a, i⟩ ⟨b, j⟩ ha hb ⟨hle, hne⟩
  simp only [List.zipIdxLE, le, decide_eq_true_eq] at hle
  have hai : l[i]? = some a := List.mem_zipIdx_iff_getElem?.1 (List.mem_mergeSort.1 ha)
  have hbj : l[j]? = some b := List.mem_zipIdx_iff_getElem?.1 (List.mem_mergeSort.1 hb)
  split at hle
  · rename_i hab
    split at hle
    · rename_i hba
      -- A tie: the places differ, and tell which is before which.
      have hij : i ≠ j := by
        rintro rfl
        rw [hai, Option.some.injEq] at hbj
        exact hne (by rw [hbj])
      have hlt : i < j := Nat.lt_of_le_of_ne (by simpa using hle) hij
      rcases List.getElem?_eq_some_iff.1 hai with ⟨hi, rfl⟩
      rcases List.getElem?_eq_some_iff.1 hbj with ⟨hj, rfl⟩
      exact .inr ⟨le_antisymm hab hba, List.pairwise_iff_getElem.1 hl i j hi hj hlt⟩
    · rename_i hba
      exact .inl (lt_of_not_ge hba)
  · cases hle

/-- A comparison of images that agrees with a key sorts the images as the key sorts the elements. -/
theorem exists_mergeSort_of_key {α β γ : Type} [LinearOrder β] (key : α → β) (f : α → γ)
    (le : γ → γ → Bool) {before : α → α → Prop} {l : List α} (hl : l.Pairwise before)
    (hle : ∀ a ∈ l, ∀ b ∈ l, le (f a) (f b) = decide (key a ≤ key b)) :
    ∃ l' : List α, l'.Perm l ∧ (l.map f).mergeSort le = l'.map f ∧
      l'.Pairwise fun a b => key a < key b ∨ key a = key b ∧ before a b := by
  refine ⟨l.mergeSort fun a b => decide (key a ≤ key b), List.mergeSort_perm _ _, ?_,
    pairwise_mergeSort_of_key key hl⟩
  rw [List.map_mergeSort]
  intro a ha b hb
  exact (hle a ha b hb).symm

/-! ## Coarser keys -/

/-- One element has an earlier place than the other. -/
def Precedes {α : Type} (l : List α) (a b : α) : Prop :=
  ∃ i j : ℕ, i < j ∧ l[i]? = some a ∧ l[j]? = some b

theorem pairwise_precedes {α : Type} (l : List α) : l.Pairwise (Precedes l) :=
  List.pairwise_iff_getElem.2 fun i j hi hj hij =>
    ⟨i, j, hij, List.getElem?_eq_getElem hi, List.getElem?_eq_getElem hj⟩

theorem Precedes.pairwise {α : Type} {l : List α} {a b : α} {R : α → α → Prop}
    (h : Precedes l a b) (hR : l.Pairwise R) : R a b := by
  rcases h with ⟨i, j, hij, hi, hj⟩
  rcases List.getElem?_eq_some_iff.1 hi with ⟨hi', rfl⟩
  rcases List.getElem?_eq_some_iff.1 hj with ⟨hj', rfl⟩
  exact List.pairwise_iff_getElem.1 hR i j hi' hj' hij

/-- Without repetitions an element has one place. -/
theorem Precedes.asymm {α : Type} {l : List α} (hl : l.Nodup) {a b : α} (h : Precedes l a b) :
    ¬ Precedes l b a := by
  rintro ⟨i, j, hij, hi, hj⟩
  rcases h with ⟨i', j', hij', hi', hj'⟩
  have hsame : ∀ {m n : ℕ} {c : α}, l[m]? = some c → l[n]? = some c → m = n := by
    intro m n c hm hn
    have hlt := (List.getElem?_eq_some_iff.1 hm).1
    exact (List.getElem?_inj hlt hl).1 (hm.trans hn.symm)
  have hib := hsame hi hj'
  have hja := hsame hj hi'
  omega

section Coarser

variable {α β γ : Type} [LinearOrder β] [LinearOrder γ] {key : α → β} {coarse : α → γ}
variable {l : List α}

/-- A sort by the coarser key is in order exactly when its ties are in order before. -/
theorem pairwise_mergeSort_coarse_iff (hl : l.Nodup)
    (hcoarse : ∀ a ∈ l, ∀ b ∈ l, coarse a < coarse b → key a < key b) :
    ((l.mergeSort fun a b => decide (coarse a ≤ coarse b)).Pairwise fun a b => key a ≤ key b) ↔
      l.Pairwise fun a b => coarse a = coarse b → key a ≤ key b := by
  have hsorted := pairwise_mergeSort_of_key coarse (pairwise_precedes l)
  have hmem : ∀ a, a ∈ l.mergeSort (fun a b => decide (coarse a ≤ coarse b)) ↔ a ∈ l :=
    fun a => List.mem_mergeSort
  constructor
  · intro hkey
    -- Of two elements one is in front in the sorted list, and ties are there as they were.
    have hboth := hsorted.and hkey
    have htotal := List.Pairwise.forall_of_forall_of_flip (R := fun a b =>
        a ≠ b → Precedes l a b → coarse a = coarse b → key a ≤ key b)
      (fun a _ hne => absurd rfl hne)
      (hboth.imp fun hab _ _ _ => hab.2)
      (hboth.imp fun hab _ hprecedes heq => by
        rcases hab.1 with hlt | ⟨-, hbefore⟩
        · exact absurd heq.symm hlt.ne
        · exact absurd hprecedes (hbefore.asymm hl))
    refine (pairwise_precedes l).imp_of_mem fun {a b} ha hb hprecedes heq => ?_
    have hne : a ≠ b := by
      rintro rfl
      exact hprecedes.asymm hl hprecedes
    exact htotal ((hmem a).2 ha) ((hmem b).2 hb) hne hprecedes heq
  · intro hties
    refine hsorted.imp_of_mem fun {a b} ha hb hab => ?_
    rcases hab with hlt | ⟨heq, hprecedes⟩
    · exact (hcoarse a ((hmem a).1 ha) b ((hmem b).1 hb) hlt).le
    · exact hprecedes.pairwise hties heq

/-- A sort by the coarser key is the sort by the finer one exactly when its ties are in order
before. -/
theorem mergeSort_coarse_eq_iff (hl : l.Nodup)
    (hcoarse : ∀ a ∈ l, ∀ b ∈ l, coarse a < coarse b → key a < key b) :
    (l.mergeSort fun a b => decide (coarse a ≤ coarse b)) =
        (l.mergeSort fun a b => decide (key a ≤ key b)) ↔
      l.Pairwise fun a b => coarse a = coarse b → key a ≤ key b := by
  have hfine := pairwise_mergeSort_of_key key (pairwise_precedes l)
  constructor
  · intro heq
    rw [← pairwise_mergeSort_coarse_iff hl hcoarse, heq]
    exact hfine.imp fun hab => hab.elim le_of_lt fun htie => htie.1.le
  · intro hties
    have hsorted := pairwise_mergeSort_of_key coarse (pairwise_precedes l)
    have hlex : (l.mergeSort fun a b => decide (coarse a ≤ coarse b)).Pairwise fun a b =>
        key a < key b ∨ key a = key b ∧ Precedes l a b := by
      refine hsorted.imp_of_mem fun {a b} ha hb hab => ?_
      rcases hab with hlt | ⟨heq, hprecedes⟩
      · exact .inl (hcoarse a (List.mem_mergeSort.1 ha) b (List.mem_mergeSort.1 hb) hlt)
      · have hle : key a ≤ key b := hprecedes.pairwise hties heq
        exact hle.lt_or_eq.imp_right fun hkey => ⟨hkey, hprecedes⟩
    refine List.Perm.eq_of_pairwise ?_ hlex hfine
      ((List.mergeSort_perm _ _).trans (List.mergeSort_perm _ _).symm)
    -- Both cannot be before the other.
    rintro a b - - (hab | ⟨hab, hprecedes⟩) (hba | ⟨hba, hprecedes'⟩)
    · exact absurd hba hab.asymm
    · exact absurd hba hab.ne'
    · exact absurd hab hba.ne'
    · exact absurd hprecedes' (hprecedes.asymm hl)

end Coarser

end Base
end OpenRouter
