import Mathlib.Data.List.Basic

/-!
# Transition — runs of a partial step function and their invariants

A system is a partial function `step : σ → ι → Option σ`: a label that is not enabled in a
state yields `none`.  `exec` runs a list of labels from left to right.

Two rules carry the induction over a run once and for all:

* `exec_invariant`: what every step preserves holds after every run;
* `exec_invariant_of_guarded`: the same for runs in which every step also meets a condition on
  the state it starts from.

The threads of a concurrent system are kept in a list, in the order in which they start.  `AllAt`
is a property of all of them that may mention the position; starting a thread and moving one
preserve it pointwise.
-/

namespace OpenRouter
namespace Base

universe u v

variable {σ : Type u} {ι : Type v}

/-! ## Runs -/

/-- Run the labels from left to right; a label that is not enabled stops the run. -/
def exec (step : σ → ι → Option σ) : σ → List ι → Option σ
  | s, [] => some s
  | s, i :: is => (step s i).bind fun s' => exec step s' is

variable {step : σ → ι → Option σ}

@[simp] theorem exec_nil (s : σ) : exec step s [] = some s := rfl

theorem exec_cons {s t : σ} {i : ι} {is : List ι} :
    exec step s (i :: is) = some t ↔ ∃ s', step s i = some s' ∧ exec step s' is = some t := by
  simp [exec, Option.bind_eq_some_iff]

theorem exec_append {s t : σ} {is js : List ι} :
    exec step s (is ++ js) = some t ↔
      ∃ s', exec step s is = some s' ∧ exec step s' js = some t := by
  induction is generalizing s with
  | nil =>
      simp
  | cons i is ih =>
      rw [List.cons_append, exec_cons]
      constructor
      · rintro ⟨s₁, h₁, h₂⟩
        rcases ih.1 h₂ with ⟨s₂, h₃, h₄⟩
        exact ⟨s₂, exec_cons.2 ⟨s₁, h₁, h₃⟩, h₄⟩
      · rintro ⟨s₂, h₁, h₂⟩
        rcases exec_cons.1 h₁ with ⟨s₁, h₃, h₄⟩
        exact ⟨s₁, h₃, ih.2 ⟨s₂, h₄, h₂⟩⟩

/-! ## Guarded runs -/

/-- Every step of the run from `s` along the labels meets `guard`. -/
def Guarded (step : σ → ι → Option σ) (guard : σ → ι → Prop) : σ → List ι → Prop
  | _, [] => True
  | s, i :: is => guard s i ∧ ∀ s', step s i = some s' → Guarded step guard s' is

variable {guard : σ → ι → Prop}

/-- A condition on the labels alone. -/
theorem guarded_of_forall {ok : ι → Prop} {s : σ} {is : List ι} (h : ∀ i ∈ is, ok i) :
    Guarded step (fun _ i => ok i) s is := by
  induction is generalizing s with
  | nil =>
      trivial
  | cons i is ih =>
      exact ⟨h i (by simp), fun s' _ => ih fun j hj => h j (by simp [hj])⟩

theorem guarded_append {s t : σ} {is js : List ι} (his : Guarded step guard s is)
    (h : exec step s is = some t) (hjs : Guarded step guard t js) :
    Guarded step guard s (is ++ js) := by
  induction is generalizing s with
  | nil =>
      cases h
      exact hjs
  | cons i is ih =>
      refine ⟨his.1, ?_⟩
      intro s' hs'
      rcases exec_cons.1 h with ⟨s₁, h₁, h₂⟩
      cases hs'.symm.trans h₁
      exact ih (his.2 s' hs') h₂

/-- What every guarded step preserves holds at the end of every guarded run. -/
theorem exec_invariant_of_guarded {Inv : σ → Prop}
    (hstep : ∀ s i s', Inv s → guard s i → step s i = some s' → Inv s')
    {s t : σ} {is : List ι} (hs : Inv s) (hg : Guarded step guard s is)
    (h : exec step s is = some t) : Inv t := by
  induction is generalizing s with
  | nil =>
      cases h
      exact hs
  | cons i is ih =>
      rcases exec_cons.1 h with ⟨s', h₁, h₂⟩
      exact ih (hstep s i s' hs hg.1 h₁) (hg.2 s' h₁) h₂

/-- What every step preserves holds at the end of every run. -/
theorem exec_invariant {Inv : σ → Prop}
    (hstep : ∀ s i s', Inv s → step s i = some s' → Inv s')
    {s t : σ} {is : List ι} (hs : Inv s) (h : exec step s is = some t) : Inv t := by
  induction is generalizing s with
  | nil =>
      cases h
      exact hs
  | cons i is ih =>
      rcases exec_cons.1 h with ⟨s', h₁, h₂⟩
      exact ih (hstep s i s' hs h₁) h₂

/-- The rule for properties of a state and of the labels that led to it. -/
theorem exec_history {P : List ι → σ → Prop} {s t : σ} {is : List ι} (hs : P [] s)
    (hstep : ∀ past s i s', P past s → step s i = some s' → P (past ++ [i]) s')
    (h : exec step s is = some t) : P is t := by
  have hfrom : ∀ (past is : List ι) (s : σ), P past s → exec step s is = some t →
      P (past ++ is) t := by
    intro past is
    induction is generalizing past with
    | nil =>
        intro s hs h
        cases h
        rwa [List.append_nil]
    | cons i is ih =>
        intro s hs h
        rcases exec_cons.1 h with ⟨s', h₁, h₂⟩
        have hrest := ih (past ++ [i]) s' (hstep past s i s' hs h₁) h₂
        rwa [List.append_assoc] at hrest
  exact hfrom [] is s hs h

/-- What the invariant and the guard give at each step holds along every guarded run. -/
theorem guarded_of_invariant {Inv : σ → Prop} {law : σ → ι → Prop}
    (hstep : ∀ s i s', Inv s → guard s i → step s i = some s' → Inv s')
    (hlaw : ∀ s i, Inv s → guard s i → law s i) {s : σ} {is : List ι} (hs : Inv s)
    (hg : Guarded step guard s is) : Guarded step law s is := by
  induction is generalizing s with
  | nil =>
      trivial
  | cons i is ih =>
      refine ⟨hlaw s i hs hg.1, ?_⟩
      intro s' h
      exact ih (hstep s i s' hs hg.1 h) (hg.2 s' h)

/-- Where two conditions agree in the good states, and a step that meets them leads to a good
state, the same runs meet them. -/
theorem guarded_iff {Inv : σ → Prop} {law : σ → ι → Prop}
    (hlaw : ∀ s i, Inv s → (law s i ↔ guard s i))
    (hstep : ∀ s i s', Inv s → guard s i → step s i = some s' → Inv s') {s : σ} {is : List ι}
    (hs : Inv s) : Guarded step law s is ↔ Guarded step guard s is := by
  induction is generalizing s with
  | nil =>
      exact Iff.rfl
  | cons i is ih =>
      rw [Guarded, Guarded, hlaw s i hs]
      refine and_congr_right fun hguard => ?_
      exact forall_congr' fun s' => forall_congr' fun h => ih (hstep s i s' hs hguard h)

/-- A guard that can be evaluated, along a run. -/
def guardedBy (step : σ → ι → Option σ) (check : σ → ι → Bool) : σ → List ι → Bool
  | _, [] => true
  | s, i :: is =>
      check s i &&
        match step s i with
        | some s' => guardedBy step check s' is
        | none => true

theorem guarded_of_guardedBy {check : σ → ι → Bool} {s : σ} {is : List ι}
    (h : guardedBy step check s is = true) : Guarded step (fun s i => check s i = true) s is := by
  induction is generalizing s with
  | nil =>
      trivial
  | cons i is ih =>
      rw [guardedBy, Bool.and_eq_true] at h
      refine ⟨h.1, ?_⟩
      intro s' hstep
      have hrest := h.2
      rw [hstep] at hrest
      exact ih hrest

/-! ## Runs without some of their steps -/

/-- The labels of a run without those that are dropped in the state they are taken in. -/
def sift (step : σ → ι → Option σ) (drop : σ → ι → Bool) : σ → List ι → List ι
  | _, [] => []
  | s, i :: is =>
      match step s i with
      | none => []
      | some s' => if drop s i then sift step drop s' is else i :: sift step drop s' is

/-- If dropped steps do not show in the erased state and the others are steps of it, the sifted
run is a run of the erased states. -/
theorem exec_sift {Inv : σ → Prop} {drop : σ → ι → Bool} (erase : σ → σ)
    (hstep : ∀ s i s', Inv s → guard s i → step s i = some s' → Inv s')
    (hkeep : ∀ s i s', Inv s → guard s i → drop s i = false → step s i = some s' →
      step (erase s) i = some (erase s'))
    (hdrop : ∀ s i s', Inv s → guard s i → drop s i = true → step s i = some s' →
      erase s' = erase s)
    {s t : σ} {is : List ι} (hs : Inv s) (hg : Guarded step guard s is)
    (h : exec step s is = some t) :
    exec step (erase s) (sift step drop s is) = some (erase t) := by
  induction is generalizing s with
  | nil =>
      cases h
      rfl
  | cons i is ih =>
      rcases exec_cons.1 h with ⟨s', h₁, h₂⟩
      have hrest := ih (hstep s i s' hs hg.1 h₁) (hg.2 s' h₁) h₂
      -- A dropped step does not show, and any other is taken in the erased state.
      cases hd : drop s i with
      | true =>
          rw [hdrop s i s' hs hg.1 hd h₁] at hrest
          simpa [sift, h₁, hd] using hrest
      | false =>
          have hsift : sift step drop s (i :: is) = i :: sift step drop s' is := by
            simp [sift, h₁, hd]
          rw [hsift]
          exact exec_cons.2 ⟨erase s', hkeep s i s' hs hg.1 hd h₁, hrest⟩

/-! ## Runs with a log -/

/-- A step that also records what it shows, the newest first. -/
def logged {ε : Type*} (step : σ → ι → Option σ) (emit : σ → ι → Option ε) (r : σ × List ε)
    (i : ι) : Option (σ × List ε) :=
  (step r.1 i).map fun s => (s, (emit r.1 i).toList ++ r.2)

/-- A log does not change what runs there are. -/
theorem exec_logged {ε : Type*} {emit : σ → ι → Option ε} {s t : σ} {is : List ι} {past : List ε} :
    exec step s is = some t ↔ ∃ log, exec (logged step emit) (s, past) is = some (t, log) := by
  induction is generalizing s past with
  | nil =>
      simp
  | cons i is ih =>
      constructor
      · intro h
        rcases exec_cons.1 h with ⟨s', h₁, h₂⟩
        have hrest : ∃ log, exec (logged step emit) (s', (emit s i).toList ++ past) is =
            some (t, log) := ih.1 h₂
        rcases hrest with ⟨log, hlog⟩
        exact ⟨log, exec_cons.2 ⟨_, by simp [logged, h₁], hlog⟩⟩
      · rintro ⟨log, h⟩
        rcases exec_cons.1 h with ⟨r, h₁, h₂⟩
        rcases Option.map_eq_some_iff.1 h₁ with ⟨s', hstep, rfl⟩
        exact exec_cons.2 ⟨s', hstep, ih.2 ⟨log, h₂⟩⟩

/-! ## Servers -/

/-- What a server replies to requests, one after the other. -/
def replies {ρ : Type*} (serve : σ → ι → ρ × σ) : σ → List ι → List ρ
  | _, [] => []
  | s, i :: is => (serve s i).1 :: replies serve (serve s i).2 is

/-- The state that requests leave a server in. -/
def afterAll {ρ : Type*} (serve : σ → ι → ρ × σ) : σ → List ι → σ
  | s, [] => s
  | s, i :: is => afterAll serve (serve s i).2 is

/-- Servers whose related states give the same reply, and stay related, cannot be told apart. -/
theorem replies_of_related {ρ τ : Type*} {serve : σ → ι → ρ × σ} {serve' : τ → ι → ρ × τ}
    {R : σ → τ → Prop}
    (is : List ι)
    (hstep : ∀ s t, ∀ i ∈ is, R s t →
      (serve s i).1 = (serve' t i).1 ∧ R (serve s i).2 (serve' t i).2)
    {s : σ} {t : τ} (hs : R s t) :
    replies serve s is = replies serve' t is ∧ R (afterAll serve s is) (afterAll serve' t is) := by
  induction is generalizing s t with
  | nil =>
      exact ⟨rfl, hs⟩
  | cons i is ih =>
      rcases hstep s t i List.mem_cons_self hs with ⟨hreply, hnext⟩
      rcases ih (fun s t j hj => hstep s t j (List.mem_cons_of_mem i hj)) hnext with
        ⟨hrest, hend⟩
      refine ⟨?_, hend⟩
      rw [replies, replies, hreply, hrest]

theorem afterAll_append {ρ : Type*} (serve : σ → ι → ρ × σ) (s : σ) (is js : List ι) :
    afterAll serve s (is ++ js) = afterAll serve (afterAll serve s is) js := by
  induction is generalizing s with
  | nil => rfl
  | cons i is ih => exact ih (serve s i).2

/-- Unwinding: requests that show nothing and keep the states related may be left out, and what the
others show is the same. -/
theorem filterMap_replies_filter {ρ α : Type*} {serve : σ → ι → ρ × σ} {see : ρ → Option α}
    {keep : ι → Bool} {R : σ → σ → Prop}
    (hkeep : ∀ s t i, keep i = true → R s t →
      see (serve s i).1 = see (serve t i).1 ∧ R (serve s i).2 (serve t i).2)
    (hdrop : ∀ s t i, keep i = false → R s t → see (serve s i).1 = none ∧ R (serve s i).2 t)
    {s t : σ} (hs : R s t) (is : List ι) :
    (replies serve s is).filterMap see = (replies serve t (is.filter keep)).filterMap see := by
  induction is generalizing s t with
  | nil =>
      rfl
  | cons i is ih =>
      cases hi : keep i with
      | true =>
          rcases hkeep s t i hi hs with ⟨hsee, hnext⟩
          rw [List.filter_cons_of_pos hi, replies, replies, List.filterMap_cons,
            List.filterMap_cons, hsee, ih hnext]
      | false =>
          rcases hdrop s t i hi hs with ⟨hsee, hnext⟩
          rw [List.filter_cons_of_neg (by simp [hi]), replies, List.filterMap_cons_none hsee,
            ih hnext]

/-! ## Threads in a list -/

variable {α : Type u}

/-- Every thread of the list has the property at its position. -/
def AllAt (p : ℕ → α → Prop) (l : List α) : Prop :=
  ∀ i a, l[i]? = some a → p i a

namespace AllAt

variable {p q : ℕ → α → Prop} {r : α → Prop} {l : List α}

theorem mono (h : AllAt p l) (hpq : ∀ i a, p i a → q i a) : AllAt q l :=
  fun i a ha => hpq i a (h i a ha)

/-- Starting a thread. -/
theorem concat {a : α} (h : AllAt p l) (ha : p l.length a) : AllAt p (l ++ [a]) := by
  intro i b hb
  rcases Nat.lt_trichotomy i l.length with hlt | rfl | hgt
  · rw [List.getElem?_append_left hlt] at hb
    exact h i b hb
  · rw [List.getElem?_concat_length] at hb
    cases hb
    exact ha
  · have hlen : (l ++ [a]).length ≤ i := by simpa using Nat.succ_le_of_lt hgt
    rw [List.getElem?_eq_none hlen] at hb
    cases hb

/-- Moving the thread at a position, when the others have the property afterwards. -/
theorem set_of_ne {i : ℕ} {a : α} (h : AllAt (fun j b => j ≠ i → p j b) l) (ha : p i a) :
    AllAt p (l.set i a) := by
  intro j b hb
  by_cases hij : i = j
  · subst hij
    have hlt : i < l.length := by
      by_contra hge
      rw [List.getElem?_eq_none (by simpa using hge)] at hb
      cases hb
    rw [List.getElem?_set_self hlt] at hb
    cases hb
    exact ha
  · rw [List.getElem?_set_ne hij] at hb
    exact h j b hb (Ne.symm hij)

/-- Moving the thread at a position. -/
theorem set {i : ℕ} {a : α} (h : AllAt p l) (ha : p i a) : AllAt p (l.set i a) :=
  set_of_ne (fun j b hb _ => h j b hb) ha

theorem forall_mem (h : AllAt (fun _ => r) l) {a : α} (ha : a ∈ l) : r a := by
  rcases List.mem_iff_getElem?.1 ha with ⟨i, hi⟩
  exact h i a hi

end AllAt

/-! ## What the threads of a list contribute -/

variable {β : Type v} {f : α → Option β}

/-- Moving a thread that goes on contributing the same changes nothing. -/
theorem filterMap_set_of_eq {l : List α} {i : ℕ} {a b : α} (hi : l[i]? = some a)
    (h : f b = f a) : (l.set i b).filterMap f = l.filterMap f := by
  induction l generalizing i with
  | nil =>
      simp at hi
  | cons c l ih =>
      cases i with
      | zero =>
          cases hi
          simp [List.filterMap_cons, h]
      | succ i =>
          have hi' : l[i]? = some a := by simpa using hi
          simp [List.filterMap_cons, ih hi']

/-- Moving a thread that contributes from now on adds its contribution. -/
theorem filterMap_set_perm {l : List α} {i : ℕ} {a b : α} {x : β} (hi : l[i]? = some a)
    (ha : f a = none) (hb : f b = some x) :
    ((l.set i b).filterMap f).Perm (x :: l.filterMap f) := by
  induction l generalizing i with
  | nil =>
      simp at hi
  | cons c l ih =>
      cases i with
      | zero =>
          cases hi
          simp [ha, hb]
      | succ i =>
          have hi' : l[i]? = some a := by simpa using hi
          cases hc : f c with
          | none => simpa [hc] using ih hi'
          | some y =>
              have hperm := ((ih hi').cons y).trans (List.Perm.swap x y _)
              simpa [hc] using hperm

/-- Moving a thread that contributes no more takes its contribution away. -/
theorem perm_filterMap_set {l : List α} {i : ℕ} {a b : α} {x : β} (hi : l[i]? = some a)
    (ha : f a = some x) (hb : f b = none) :
    (l.filterMap f).Perm (x :: (l.set i b).filterMap f) := by
  rcases List.getElem?_eq_some_iff.1 hi with ⟨hlt, rfl⟩
  -- Moving the thread back adds its contribution.
  have hback : (l.set i b).set i l[i] = l := by
    rw [List.set_set, List.set_getElem_self]
  have hperm := filterMap_set_perm (List.getElem?_set_self (a := b) hlt) hb ha
  rwa [hback] at hperm

/-! ## Rows of open transactions -/

/-- A relation between any two of the rows of a table and of those that the threads hold. -/
def PairwiseHeld (r : β → β → Prop) (f : α → Option β) (rows : List β) (l : List α) : Prop :=
  (rows ++ l.filterMap f).Pairwise r

namespace PairwiseHeld

variable {r : β → β → Prop} [Std.Symm r] {rows : List β} {l : List α} {i : ℕ} {a b : α} {x : β}

omit [Std.Symm r] in
theorem of_eq (h : PairwiseHeld r f rows l) (hi : l[i]? = some a) (heq : f b = f a) :
    PairwiseHeld r f rows (l.set i b) := by
  rw [PairwiseHeld, filterMap_set_of_eq hi heq]
  exact h

/-- A thread takes a row that is related to all others. -/
theorem hold (h : PairwiseHeld r f rows l) (hi : l[i]? = some a) (ha : f a = none)
    (hb : f b = some x) (hrows : ∀ y ∈ rows, r y x) (hheld : ∀ y ∈ l.filterMap f, r y x) :
    PairwiseHeld r f rows (l.set i b) := by
  -- The order of the rows does not matter to a symmetric relation.
  have hperm : (rows ++ (l.set i b).filterMap f).Perm (x :: (rows ++ l.filterMap f)) :=
    ((filterMap_set_perm hi ha hb).append_left rows).trans List.perm_middle
  refine (hperm.pairwise_iff (Std.Symm.symm _ _)).2 (List.pairwise_cons.2 ⟨?_, h⟩)
  intro y hy
  rcases List.mem_append.1 hy with hy | hy
  · exact Std.Symm.symm y x (hrows y hy)
  · exact Std.Symm.symm y x (hheld y hy)

/-- A thread gives its row to the table. -/
theorem release (h : PairwiseHeld r f rows l) (hi : l[i]? = some a) (ha : f a = some x)
    (hb : f b = none) : PairwiseHeld r f (x :: rows) (l.set i b) := by
  have hperm : (rows ++ l.filterMap f).Perm (x :: rows ++ (l.set i b).filterMap f) :=
    ((perm_filterMap_set hi ha hb).append_left rows).trans List.perm_middle
  exact (hperm.pairwise_iff (Std.Symm.symm _ _)).1 h

/-- A thread gives up what it holds. -/
theorem drop (h : PairwiseHeld r f rows l) (hi : l[i]? = some a) (hb : f b = none) :
    PairwiseHeld r f rows (l.set i b) := by
  cases ha : f a with
  | none => exact h.of_eq hi (hb.trans ha.symm)
  | some x => exact (List.pairwise_cons.1 (h.release hi ha hb)).2

end PairwiseHeld

end Base
end OpenRouter
