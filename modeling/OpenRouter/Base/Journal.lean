import Mathlib.Data.List.Nodup

/-!
# Journal — the rows that a list of entries leaves

The newest entry is at the head.  An entry acts on the rows that there are and may add one.
`mem_replay` splits a journal at the entry that added a row, and `split_unique` says that rows with
a key have one such entry.
-/

namespace OpenRouter
namespace Base

universe u v w

variable {ε : Type u} {ρ : Type v} {κ : Type w}

def replay (create : ε → Option ρ) (act : ε → ρ → ρ) : List ε → List ρ
  | [] => []
  | e :: es => (create e).toList ++ (replay create act es).map (act e)

variable {create : ε → Option ρ} {act : ε → ρ → ρ}

/-- A row is what the entries behind the one that added it made of it. -/
theorem mem_replay {r : ρ} {es : List ε} :
    r ∈ replay create act es ↔
      ∃ later e earlier k, es = later ++ e :: earlier ∧ create e = some k ∧
        later.foldr act k = r := by
  induction es generalizing r with
  | nil => simp [replay]
  | cons e es ih =>
      rw [replay, List.mem_append, List.mem_map]
      constructor
      · rintro (hnew | ⟨r', hr', rfl⟩)
        · exact ⟨[], e, es, r, rfl, Option.mem_toList.1 hnew, rfl⟩
        · rcases ih.1 hr' with ⟨later, e', earlier, k, rfl, hk, rfl⟩
          exact ⟨e :: later, e', earlier, k, rfl, hk, rfl⟩
      · rintro ⟨later, e', earlier, k, hes, hk, rfl⟩
        cases later with
        | nil =>
            cases hes
            exact .inl (Option.mem_toList.2 hk)
        | cons e'' later =>
            cases hes
            exact .inr ⟨_, ih.2 ⟨later, e', earlier, k, rfl, hk, rfl⟩, rfl⟩

theorem foldr_act {f : ρ → κ} (h : ∀ e r, f (act e r) = f r) (es : List ε) (r : ρ) :
    f (es.foldr act r) = f r := by
  induction es with
  | nil => rfl
  | cons e es ih => rw [List.foldr_cons, h, ih]

/-- A column that no entry changes. -/
theorem map_replay {f : ρ → κ} (h : ∀ e r, f (act e r) = f r) (es : List ε) :
    (replay create act es).map f = es.filterMap fun e => (create e).map f := by
  induction es with
  | nil => rfl
  | cons e es ih =>
      have hcol : ((replay create act es).map (act e)).map f = (replay create act es).map f := by
        rw [List.map_map]
        exact List.map_congr_left fun r _ => h e r
      rw [replay, List.map_append, hcol, ih]
      cases hnew : create e <;> simp [hnew]

/-- Where keys are unique, so is the entry of a key. -/
theorem split_unique {f : ε → Option κ} {es l l' m m' : List ε} {a b : ε} {c : κ}
    (hnodup : (es.filterMap f).Nodup) (h : es = l ++ a :: m) (h' : es = l' ++ b :: m')
    (ha : f a = some c) (hb : f b = some c) : l = l' ∧ a = b ∧ m = m' := by
  -- An entry of the same key behind the head would be a second one.
  have hfresh : ∀ {x y : ε} {l m : List ε}, ((x :: (l ++ y :: m)).filterMap f).Nodup →
      f x = some c → f y = some c → False := by
    intro x y l m hnodup hx hy
    rw [List.filterMap_cons_some hx, List.nodup_cons] at hnodup
    exact hnodup.1 (List.mem_filterMap.2 ⟨y, by simp, hy⟩)
  induction es generalizing l l' with
  | nil => simp at h
  | cons e es ih =>
      have htail : (es.filterMap f).Nodup :=
        hnodup.sublist ((List.sublist_cons_self e es).filterMap f)
      cases l with
      | nil =>
          cases l' with
          | nil =>
              cases h
              cases h'
              exact ⟨rfl, rfl, rfl⟩
          | cons x l' =>
              cases h
              cases h'
              exact (hfresh hnodup ha hb).elim
      | cons x l =>
          cases l' with
          | nil =>
              cases h
              cases h'
              exact (hfresh hnodup hb ha).elim
          | cons y l' =>
              rw [List.cons_append, List.cons.injEq] at h h'
              rcases ih htail h.2 h'.2 with ⟨rfl, hab, hm⟩
              exact ⟨by rw [← h.1, ← h'.1], hab, hm⟩

end Base
end OpenRouter
