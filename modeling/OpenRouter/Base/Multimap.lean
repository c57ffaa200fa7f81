import Mathlib.Data.List.Nodup

/-!
# Multimap — lists of pairs in which a key may be repeated

Headers and query parameters are lists of pairs with an operation that sets a key: it leaves one
pair with it.  What copying a list pair by pair with such an operation loses are the repetitions:
of every key the last value is left (`valuesOf_foldl`).  A copy onto pairs that are there already is
the list exactly when no key is repeated and the pairs there have the first keys of the list
(`foldl_setPair_eq_iff`).
-/

namespace OpenRouter
namespace Base

universe u v

variable {κ : Type u} {ν : Type v} [DecidableEq κ]

/-- The values of a key, in their order. -/
def valuesOf (ps : List (κ × ν)) (k : κ) : List ν :=
  (ps.filter fun p => p.1 = k).map Prod.snd

@[simp] theorem valuesOf_nil (k : κ) : valuesOf ([] : List (κ × ν)) k = [] := rfl

theorem mem_valuesOf {ps : List (κ × ν)} {k : κ} {v : ν} : v ∈ valuesOf ps k ↔ (k, v) ∈ ps := by
  simp [valuesOf]

theorem valuesOf_append (ps qs : List (κ × ν)) (k : κ) :
    valuesOf (ps ++ qs) k = valuesOf ps k ++ valuesOf qs k := by
  simp [valuesOf]

theorem valuesOf_cons (p : κ × ν) (ps : List (κ × ν)) (k : κ) :
    valuesOf (p :: ps) k = if p.1 = k then p.2 :: valuesOf ps k else valuesOf ps k := by
  by_cases h : p.1 = k <;> simp [valuesOf, h]

/-- Of a key that is kept, every value is. -/
theorem valuesOf_filter {ps : List (κ × ν)} {keep : κ × ν → Bool} {k : κ}
    (h : ∀ p ∈ ps, p.1 = k → keep p = true) : valuesOf (ps.filter keep) k = valuesOf ps k := by
  rw [valuesOf, valuesOf, List.filter_filter]
  congr 1
  refine List.filter_congr fun p hp => ?_
  by_cases hk : p.1 = k
  · simp [hk, h p hp hk]
  · simp [hk]

theorem valuesOf_ne_nil_iff {ps : List (κ × ν)} {k : κ} :
    valuesOf ps k ≠ [] ↔ ∃ p ∈ ps, p.1 = k := by
  simp [valuesOf, List.filter_eq_nil_iff]

/-- Of a key that is dropped, no value is kept. -/
theorem valuesOf_filter_eq_nil {ps : List (κ × ν)} {keep : κ × ν → Bool} {k : κ}
    (h : ∀ p ∈ ps, p.1 = k → keep p = false) : valuesOf (ps.filter keep) k = [] := by
  by_contra hne
  rcases valuesOf_ne_nil_iff.1 hne with ⟨p, hp, hk⟩
  rcases List.mem_filter.1 hp with ⟨hmem, hkeep⟩
  rw [h p hmem hk] at hkeep
  cases hkeep

/-- Values that are changed in a way that may depend on the key. -/
theorem valuesOf_map (f : κ → ν → ν) (ps : List (κ × ν)) (k : κ) :
    valuesOf (ps.map fun p => (p.1, f p.1 p.2)) k = (valuesOf ps k).map (f k) := by
  induction ps with
  | nil => rfl
  | cons p ps ih =>
      rw [List.map_cons, valuesOf_cons, valuesOf_cons, ih]
      by_cases hk : p.1 = k <;> simp [hk]

theorem length_valuesOf (ps : List (κ × ν)) (k : κ) :
    (valuesOf ps k).length = (ps.map Prod.fst).count k := by
  induction ps with
  | nil => rfl
  | cons p ps ih =>
      rw [valuesOf_cons, List.map_cons, List.count_cons, ← ih]
      by_cases hk : p.1 = k <;> simp [hk]

theorem length_valuesOf_le_one {ps : List (κ × ν)} (h : (ps.map Prod.fst).Nodup) (k : κ) :
    (valuesOf ps k).length ≤ 1 := by
  rw [length_valuesOf]
  exact List.nodup_iff_count_le_one.1 h k

/-! ## Copies -/

/-- After the pairs have been set one after the other, a key has the last of its values. -/
theorem valuesOf_foldl {set : List (κ × ν) → κ → ν → List (κ × ν)}
    (hself : ∀ ps k v, valuesOf (set ps k v) k = [v])
    (hother : ∀ ps k v k', k' ≠ k → valuesOf (set ps k v) k' = valuesOf ps k')
    (acc ps : List (κ × ν)) (k : κ) :
    valuesOf (ps.foldl (fun out p => set out p.1 p.2) acc) k =
      ((valuesOf ps k).getLast?.map fun v => [v]).getD (valuesOf acc k) := by
  induction ps generalizing acc with
  | nil =>
      rfl
  | cons p ps ih =>
      rw [List.foldl_cons, ih, valuesOf_cons]
      -- The value that is set stays unless a later pair has the key as well.
      by_cases hk : p.1 = k
      · subst hk
        rw [if_pos rfl, hself, List.getLast?_cons]
        cases (valuesOf ps p.1).getLast? <;> rfl
      · rw [if_neg hk, hother _ _ _ _ (Ne.symm hk)]

theorem getLast?_toList_eq_iff (vs : List ν) : vs.getLast?.toList = vs ↔ vs.length ≤ 1 := by
  match vs with
  | [] => simp
  | [v] => simp
  | v :: w :: vs =>
      rw [List.getLast?_cons]
      simp

/-! ## Setting a key in its place -/

/-- The first pair of the key gets the value, and the others go. -/
def setPair : List (κ × ν) → κ → ν → List (κ × ν)
  | [], k, v => [(k, v)]
  | p :: ps, k, v =>
      if p.1 = k then (k, v) :: ps.filter (fun q => q.1 ≠ k) else p :: setPair ps k v

theorem setPair_of_not_mem {ps : List (κ × ν)} {k : κ} (h : k ∉ ps.map Prod.fst) (v : ν) :
    setPair ps k v = ps ++ [(k, v)] := by
  induction ps with
  | nil => rfl
  | cons p ps ih =>
      rw [List.map_cons, List.mem_cons, not_or] at h
      rw [setPair, if_neg (Ne.symm h.1), ih h.2, List.cons_append]

theorem valuesOf_setPair_self (ps : List (κ × ν)) (k : κ) (v : ν) :
    valuesOf (setPair ps k v) k = [v] := by
  induction ps with
  | nil => simp [setPair, valuesOf]
  | cons p ps ih =>
      by_cases hk : p.1 = k
      · simp [setPair, hk, valuesOf]
      · rw [setPair, if_neg hk, valuesOf_cons, if_neg hk, ih]

theorem valuesOf_setPair_of_ne (ps : List (κ × ν)) (k : κ) (v : ν) (k' : κ) (h : k' ≠ k) :
    valuesOf (setPair ps k v) k' = valuesOf ps k' := by
  induction ps with
  | nil => simp [setPair, valuesOf, h.symm]
  | cons p ps ih =>
      by_cases hk : p.1 = k
      · have hkept : valuesOf (ps.filter fun q => q.1 ≠ k) k' = valuesOf ps k' :=
          valuesOf_filter fun q _ hq => by simp [hq, h]
        rw [setPair, if_pos hk, valuesOf_cons, valuesOf_cons, if_neg h.symm,
          if_neg (by rw [hk]; exact h.symm), hkept]
      · rw [setPair, if_neg hk, valuesOf_cons, valuesOf_cons, ih]

/-- Pairs with new keys are appended. -/
theorem foldl_setPair_of_nodup {acc ps : List (κ × ν)}
    (h : ((acc ++ ps).map Prod.fst).Nodup) :
    ps.foldl (fun out p => setPair out p.1 p.2) acc = acc ++ ps := by
  induction ps generalizing acc with
  | nil =>
      simp
  | cons p ps ih =>
      have hnew : p.1 ∉ acc.map Prod.fst := by
        intro hmem
        rw [List.map_append, List.map_cons] at h
        exact List.disjoint_of_nodup_append h hmem List.mem_cons_self
      have happend : acc ++ [p] ++ ps = acc ++ p :: ps := by simp
      rw [List.foldl_cons, setPair_of_not_mem hnew, ih (by rwa [happend]), happend]

/-- The first pair stays where it is; if its key is not set, it stays as it is. -/
theorem foldl_setPair_cons (p : κ × ν) (acc ps : List (κ × ν)) :
    (∃ v acc', ps.foldl (fun out q => setPair out q.1 q.2) (p :: acc) = (p.1, v) :: acc') ∧
      (p.1 ∉ ps.map Prod.fst → ps.foldl (fun out q => setPair out q.1 q.2) (p :: acc) =
        p :: ps.foldl (fun out q => setPair out q.1 q.2) acc) := by
  induction ps generalizing p acc with
  | nil => exact ⟨⟨p.2, acc, rfl⟩, fun _ => rfl⟩
  | cons q ps ih =>
      by_cases hq : p.1 = q.1
      · have hset : setPair (p :: acc) q.1 q.2 =
            (p.1, q.2) :: acc.filter (fun r => r.1 ≠ q.1) := by
          rw [setPair, if_pos hq, hq]
        rw [List.foldl_cons, hset]
        exact ⟨(ih (p.1, q.2) _).1, fun h => (h (by simp [hq])).elim⟩
      · have hset : setPair (p :: acc) q.1 q.2 = p :: setPair acc q.1 q.2 := by
          rw [setPair, if_neg hq]
        rw [List.foldl_cons, List.foldl_cons, hset]
        exact ⟨(ih p _).1, fun h => (ih p _).2 fun hmem => h (List.mem_cons_of_mem _ hmem)⟩

/-- What is there before does not show exactly when it has the first keys of the list. -/
theorem foldl_setPair_eq_iff_of_nodup (acc : List (κ × ν)) {ps : List (κ × ν)}
    (h : (ps.map Prod.fst).Nodup) :
    ps.foldl (fun out p => setPair out p.1 p.2) acc = ps ↔
      (acc.map Prod.fst).eraseDups <+: ps.map Prod.fst := by
  induction hlen : acc.length using Nat.strongRecOn generalizing acc ps with
  | ind n ih =>
      cases acc with
      | nil =>
          have hcopy := foldl_setPair_of_nodup (show (([] ++ ps).map Prod.fst).Nodup from h)
          simp [hcopy]
      | cons p acc =>
          rw [List.map_cons, List.eraseDups_cons]
          cases ps with
          | nil => simp
          | cons q ps =>
              by_cases hq : p.1 = q.1
              · rw [List.map_cons, List.nodup_cons] at h
                -- The pair of the key gets its value, and the rest is a copy onto the others.
                have hset : setPair (p :: acc) q.1 q.2 =
                    q :: acc.filter (fun r => r.1 ≠ q.1) := by
                  rw [setPair, if_pos hq]
                have hkeys : (acc.map Prod.fst).filter (fun k => !k == p.1) =
                    (acc.filter fun r => r.1 ≠ q.1).map Prod.fst := by
                  rw [List.filter_map, hq]
                  congr 1
                  exact List.filter_congr fun r _ => by simp [beq_eq_decide]
                have hshort : (acc.filter fun r => r.1 ≠ q.1).length < n := by
                  have hle := List.length_filter_le (fun r : κ × ν => r.1 ≠ q.1) acc
                  rw [List.length_cons] at hlen
                  omega
                rw [List.foldl_cons, hset, (foldl_setPair_cons q _ ps).2 h.1, hkeys, List.map_cons,
                  hq, List.cons_prefix_cons, List.cons.injEq, and_iff_right rfl,
                  and_iff_right rfl]
                exact ih _ hshort _ h.2 rfl
              · have hprefix : ¬ p.1 :: ((acc.map Prod.fst).filter fun k => !k == p.1).eraseDups <+:
                    (q :: ps).map Prod.fst := by
                  rw [List.map_cons, List.cons_prefix_cons]
                  exact fun hboth => hq hboth.1
                refine iff_of_false ?_ hprefix
                rcases (foldl_setPair_cons p acc (q :: ps)).1 with ⟨v, acc', hhead⟩
                rw [hhead]
                intro heq
                cases heq
                exact hq rfl

/-- A copy of a list onto the pairs there are is the list exactly when it repeats no key and they
have its first keys. -/
theorem foldl_setPair_eq_iff (acc ps : List (κ × ν)) :
    ps.foldl (fun out p => setPair out p.1 p.2) acc = ps ↔
      (ps.map Prod.fst).Nodup ∧ (acc.map Prod.fst).eraseDups <+: ps.map Prod.fst := by
  constructor
  · intro hcopy
    have hnodup : (ps.map Prod.fst).Nodup := by
      rw [List.nodup_iff_count_le_one]
      intro k
      have hvalues := valuesOf_foldl valuesOf_setPair_self valuesOf_setPair_of_ne acc ps k
      rw [hcopy] at hvalues
      rw [← length_valuesOf]
      cases hlast : (valuesOf ps k).getLast? with
      | none => simp [List.getLast?_eq_none_iff.1 hlast]
      | some v =>
          rw [hlast] at hvalues
          rw [hvalues]
          simp
    exact ⟨hnodup, (foldl_setPair_eq_iff_of_nodup acc hnodup).1 hcopy⟩
  · rintro ⟨hnodup, hfirst⟩
    exact (foldl_setPair_eq_iff_of_nodup acc hnodup).2 hfirst

end Base
end OpenRouter
