import OpenRouter.Gateway.Untripped

/-!
# Registry — `For` under its lock

Concurrent calls of `Registry.For`.  A call looks its key up under the read lock and, when that
finds nothing, looks again and inserts under the write lock; between the two it holds no lock, so
that other calls may move.  A breaker is its address here, since two calls share a breaker only
when they are given the same pointer.

`returned_eq_iff` is what the double check is for; `view_of_step` says that the map develops as
`Registry.forTarget` has it.
-/

namespace OpenRouter
namespace Gateway
namespace SharedRegistry

open Base Function

/-! ## Calls of For -/

inductive Pc
  /-- Before the read-locked lookup. -/
  | looking
  /-- The lookup found nothing; the write-locked section is next. -/
  | inserting
  | returned (cb : ℕ)
  deriving DecidableEq

structure ForCall where
  target : Target
  pc : Pc

/-- The map of a registry, the breakers that were created, by address, and the calls. -/
structure State (B : CircuitBreaker) where
  breakers : String → Option ℕ
  created : List B.Breaker
  calls : List ForCall

inductive Label
  | call (t : Target)
  | lookup (i : ℕ)
  | insert (i : ℕ) (now : ℤ)

variable {B : CircuitBreaker}

/-- `NewRegistry`. -/
def newRegistry : State B where
  breakers := fun _ => none
  created := []
  calls := []

namespace State

variable (s : State B)

/-- The piece of `For` that the call at index `i` does next, as `next` gives it. -/
def onCall (i : ℕ) (next : ForCall → Option (State B)) : Option (State B) :=
  s.calls[i]?.bind next

/-- Move the call at index `i` on to `pc`. -/
def advance (i : ℕ) (c : ForCall) (pc : Pc) : State B :=
  { s with calls := s.calls.set i { c with pc := pc } }

/-- `NewCircuitBreaker`, filed under the key of a target. -/
def create (now : ℤ) (t : Target) : State B :=
  { s with
    breakers := update s.breakers (breakerKey t) (some s.created.length)
    created := s.created ++ [B.new (registrySettings (breakerKey t)) now] }

/-- The registry with what its pointers point to. -/
def view : Registry B :=
  fun key => (s.breakers key).bind fun cb => s.created[cb]?

end State

def step (s : State B) : Label → Option (State B)
  | .call t => some { s with calls := s.calls ++ [{ target := t, pc := .looking }] }
  | .lookup i => s.onCall i fun c =>
      match c.pc with
      | .looking =>
          match s.breakers (breakerKey c.target) with
          | some cb => some (s.advance i c (.returned cb))
          | none => some (s.advance i c .inserting)
      | _ => none
  | .insert i now => s.onCall i fun c =>
      match c.pc with
      | .inserting =>
          match s.breakers (breakerKey c.target) with
          | some cb => some (s.advance i c (.returned cb))
          | none =>
              some ((s.create now c.target).advance i c (.returned s.created.length))
      | _ => none

/-- The provider of a call has no colon in its name, as the adapters have none. -/
def Label.ColonFree : Label → Prop
  | .call t => ':' ∉ t.provider.toList
  | _ => True

/-! ## What a step can do -/

inductive Effect (s : State B) : Label → State B → Prop
  | call (t : Target) :
      Effect s (.call t) { s with calls := s.calls ++ [{ target := t, pc := .looking }] }
  | found {l : Label} {i cb : ℕ} {c : ForCall} : s.calls[i]? = some c →
      s.breakers (breakerKey c.target) = some cb → Effect s l (s.advance i c (.returned cb))
  | missed {i : ℕ} {c : ForCall} : s.calls[i]? = some c →
      Effect s (.lookup i) (s.advance i c .inserting)
  | created {i : ℕ} {now : ℤ} {c : ForCall} : s.calls[i]? = some c →
      s.breakers (breakerKey c.target) = none →
      Effect s (.insert i now)
        ((s.create now c.target).advance i c (.returned s.created.length))

variable {s s' : State B} {l : Label}

theorem effect_of_step (h : step s l = some s') : Effect s l s' := by
  cases l with
  | call t =>
      cases h
      exact .call t
  | lookup i =>
      rcases Option.bind_eq_some_iff.1 h with ⟨c, hc, h⟩
      cases hpc : c.pc with
      | looking =>
          cases hkey : s.breakers (breakerKey c.target) with
          | some cb =>
              simp only [hpc, hkey] at h
              cases h
              exact .found hc hkey
          | none =>
              simp only [hpc, hkey] at h
              cases h
              exact .missed hc
      | _ => simp [hpc] at h
  | insert i now =>
      rcases Option.bind_eq_some_iff.1 h with ⟨c, hc, h⟩
      cases hpc : c.pc with
      | inserting =>
          cases hkey : s.breakers (breakerKey c.target) with
          | some cb =>
              simp only [hpc, hkey] at h
              cases h
              exact .found hc hkey
          | none =>
              simp only [hpc, hkey] at h
              cases h
              exact .created hc hkey
      | _ => simp [hpc] at h

/-! ## The invariant -/

/-- No breaker is filed twice, and what a call returned is what the map has for its target. -/
structure Inv (s : State B) : Prop where
  allocated : ∀ key cb, s.breakers key = some cb → cb < s.created.length
  filedOnce : ∀ key key' cb, s.breakers key = some cb → s.breakers key' = some cb → key = key'
  calls : AllAt (fun _ c => ':' ∉ c.target.provider.toList ∧
    ∀ cb, c.pc = .returned cb → s.breakers (breakerKey c.target) = some cb) s.calls

theorem inv_newRegistry : Inv (newRegistry : State B) where
  allocated := by simp [newRegistry]
  filedOnce := by simp [newRegistry]
  calls := by simp [AllAt, newRegistry]

/-- What the map has stays. -/
def Kept (s t : State B) : Prop :=
  ∀ key cb, s.breakers key = some cb → t.breakers key = some cb

theorem kept_of_step (h : step s l = some s') : Kept s s' := by
  intro key cb hkey
  cases effect_of_step h with
  | @created i now c hc hnone =>
      have hne : key ≠ breakerKey c.target := by
        rintro rfl
        rw [hnone] at hkey
        cases hkey
      exact (update_of_ne hne _ _).trans hkey
  | _ => exact hkey

theorem kept_of_exec {t : State B} {labels : List Label} (h : exec step s labels = some t) :
    Kept s t := by
  have hstep : ∀ u l u', Kept s u → step u l = some u' → Kept s u' :=
    fun u l u' hu hl key cb hkey => kept_of_step hl key cb (hu key cb hkey)
  exact exec_invariant hstep (fun _ _ hkey => hkey) h

section Create

variable (now : ℤ) {t : Target} {key : String} {cb : ℕ}

@[simp] theorem State.length_create : (s.create now t).created.length = s.created.length + 1 := by
  simp [State.create]

theorem State.breakers_create_self :
    (s.create now t).breakers (breakerKey t) = some s.created.length :=
  update_self _ _ _

theorem State.breakers_create_of_ne (hne : key ≠ breakerKey t) :
    (s.create now t).breakers key = s.breakers key :=
  update_of_ne hne _ _

/-- What the map has after a creation it had before, or it is the new breaker under its key. -/
theorem cases_of_create (h : (s.create now t).breakers key = some cb) :
    s.breakers key = some cb ∨ key = breakerKey t ∧ cb = s.created.length := by
  by_cases hkey : key = breakerKey t
  · subst hkey
    rw [State.breakers_create_self now] at h
    cases h
    exact .inr ⟨rfl, rfl⟩
  · rw [State.breakers_create_of_ne now hkey] at h
    exact .inl h

theorem allocated_create (hs : Inv s) (h : (s.create now t).breakers key = some cb) :
    cb < (s.create now t).created.length := by
  rw [State.length_create now]
  rcases cases_of_create now h with hold | ⟨-, rfl⟩
  · exact Nat.lt_succ_of_lt (hs.allocated key cb hold)
  · exact Nat.lt_succ_self _

/-- The new breaker has an address above all that are filed, so it is filed once. -/
theorem filedOnce_create {key' : String} (hs : Inv s)
    (h : (s.create now t).breakers key = some cb)
    (h' : (s.create now t).breakers key' = some cb) : key = key' := by
  rcases cases_of_create now h with hold | ⟨rfl, hcb⟩
  · rcases cases_of_create now h' with hold' | ⟨rfl, hcb'⟩
    · exact hs.filedOnce key key' cb hold hold'
    · exact absurd (hs.allocated key cb hold) (Nat.not_lt.2 hcb'.ge)
  · rcases cases_of_create now h' with hold' | ⟨rfl, -⟩
    · exact absurd (hs.allocated key' cb hold') (Nat.not_lt.2 hcb.ge)
    · rfl

end Create

theorem inv_of_step (hs : Inv s) (hfree : l.ColonFree) (h : step s l = some s') : Inv s' := by
  have hkept := kept_of_step h
  -- What the other calls returned stays in the map.
  have hothers : AllAt (fun _ c => ':' ∉ c.target.provider.toList ∧
      ∀ cb, c.pc = .returned cb → s'.breakers (breakerKey c.target) = some cb) s.calls :=
    hs.calls.mono fun i c hc => ⟨hc.1, fun cb hpc => hkept _ _ (hc.2 cb hpc)⟩
  cases effect_of_step h with
  | call t =>
      refine { allocated := hs.allocated, filedOnce := hs.filedOnce, calls := hothers.concat ?_ }
      exact ⟨hfree, fun cb hpc => by cases hpc⟩
  | @found _ i cb c hc hkey =>
      refine { allocated := hs.allocated, filedOnce := hs.filedOnce, calls := hothers.set ?_ }
      refine ⟨(hs.calls i c hc).1, ?_⟩
      intro cb' hpc
      cases hpc
      exact hkey
  | @missed i c hc =>
      refine { allocated := hs.allocated, filedOnce := hs.filedOnce, calls := hothers.set ?_ }
      exact ⟨(hs.calls i c hc).1, fun cb hpc => by cases hpc⟩
  | @created i now c hc hnone =>
      refine
        { allocated := fun _ _ h => allocated_create now hs h
          filedOnce := fun _ _ _ h h' => filedOnce_create now hs h h'
          calls := hothers.set ?_ }
      refine ⟨(hs.calls i c hc).1, ?_⟩
      intro cb hpc
      cases hpc
      exact State.breakers_create_self now

theorem inv_of_exec {t : State B} {labels : List Label} (hs : Inv s)
    (hfree : ∀ l ∈ labels, l.ColonFree) (h : exec step s labels = some t) : Inv t := by
  refine exec_invariant_of_guarded ?_ hs (guarded_of_forall hfree) h
  intro u l u' hu hl hstep
  exact inv_of_step hu hl hstep

/-! ## Breakers by target -/

/-- Two calls that have returned, at any two moments of a run, have the same breaker exactly when
they are for the same target. -/
theorem returned_eq_iff (labels more : List Label) (i j : ℕ) {s t : State B}
    (hfree : ∀ u, .call u ∈ labels ++ more → ':' ∉ u.provider.toList)
    (hs : exec step newRegistry labels = some s) (ht : exec step s more = some t)
    {cb cb' : ℕ} {c c' : ForCall} (hc : s.calls[i]? = some c) (hcb : c.pc = .returned cb)
    (hc' : t.calls[j]? = some c') (hcb' : c'.pc = .returned cb') :
    cb = cb' ↔ c.target = c'.target := by
  have hclean : ∀ l ∈ labels ++ more, l.ColonFree := by
    intro l hl
    cases l with
    | call u => exact hfree u hl
    | _ => trivial
  have hinvs : Inv s :=
    inv_of_exec inv_newRegistry (fun l hl => hclean l (List.mem_append_left _ hl)) hs
  have hinvt : Inv t := inv_of_exec hinvs (fun l hl => hclean l (List.mem_append_right _ hl)) ht
  rcases hinvs.calls i c hc with ⟨hcolon, hfiled⟩
  rcases hinvt.calls j c' hc' with ⟨hcolon', hfiled'⟩
  -- What the first call returned is in the map for as long as the registry lives.
  have hkept := kept_of_exec ht _ _ (hfiled cb hcb)
  constructor
  · rintro rfl
    exact breakerKey_inj hcolon hcolon' (hinvt.filedOnce _ _ cb hkept (hfiled' cb hcb'))
  · intro htarget
    rw [htarget, hfiled' cb' hcb'] at hkept
    cases hkept
    rfl

def gpt4o : Target where
  provider := "openai"
  model := "gpt-4o"

/-- Two calls for one target both miss; the second of them inserts. -/
def bothMiss : List Label :=
  [.call gpt4o, .call gpt4o, .lookup 0, .lookup 1, .insert 1 5]

/-- The first call finds the breaker of the second, and another target gets its own. -/
def theOthers : List Label :=
  [.insert 0 6, .call { gpt4o with model := "o1" }, .lookup 2, .insert 2 7]

theorem returned_eq_iff_bothMiss :
    ∃ (s t : State countingBreakers) (c c' : ForCall) (cb cb' : ℕ),
      exec step newRegistry bothMiss = some s ∧ exec step s theOthers = some t ∧
        s.calls[1]? = some c ∧ c.pc = .returned cb ∧ t.calls[2]? = some c' ∧
        c'.pc = .returned cb' ∧ (cb = cb' ↔ c.target = c'.target) :=
  ⟨_, _, _, _, _, _, rfl, rfl, rfl, rfl, rfl, rfl,
    returned_eq_iff bothMiss theOthers 1 2 (by simp [bothMiss, theOthers, gpt4o]) rfl rfl rfl rfl
      rfl rfl⟩

/-! ## The map -/

theorem view_create (hs : Inv s) {t : Target} (hnone : s.breakers (breakerKey t) = none)
    (now : ℤ) : (s.create now t).view = s.view.forTarget now t := by
  have hmissing : s.view (breakerKey t) = none := by simp [State.view, hnone]
  funext key
  by_cases hkey : key = breakerKey t
  · subst hkey
    -- The new breaker is the one that `For` would make by itself.
    have hnew : s.view.forTarget now t (breakerKey t) =
        some (B.new (registrySettings (breakerKey t)) now) := by
      rw [Registry.forTarget, hmissing]
      exact update_self (breakerKey t) _ s.view
    rw [hnew]
    simp [State.view, State.create]
  · have hold : (s.create now t).view key = s.view key := by
      simp only [State.view, State.create, update_of_ne hkey]
      cases hcb : s.breakers key with
      | none => rfl
      | some cb => exact List.getElem?_append_left (hs.allocated key cb hcb)
    rw [hold, Registry.forTarget, hmissing]
    exact (update_of_ne hkey _ _).symm

/-- The map changes as one call of `For` by itself changes it. -/
theorem view_of_step (hs : Inv s) (h : step s l = some s') :
    s'.view = s.view ∨ ∃ now t, s'.view = s.view.forTarget now t := by
  cases effect_of_step h with
  | @created i now c hc hnone => exact .inr ⟨now, c.target, view_create hs hnone now⟩
  | _ => exact .inl rfl

end SharedRegistry
end Gateway
end OpenRouter
