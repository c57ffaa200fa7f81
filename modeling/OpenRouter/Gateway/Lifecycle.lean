import OpenRouter.Gateway.Reload

/-!
# Lifecycle — the signals of the gateway process

`run` reads signals from a channel with room for one, which `signal.Notify` never waits for: a
signal that arrives while another is pending is lost.  `current_of_run` says that no edit of the
routing file goes unread because of that; `lost_of_run` says when a request to stop does.
-/

namespace OpenRouter
namespace Gateway

open Base

namespace Lifecycle

/-- The signals `run` asks for. -/
inductive Signal
  | hup
  | term
  | int
  deriving DecidableEq

/-- What `ListenAndServe` returns. -/
inductive ListenError
  | serverClosed
  | failed (err : GoError)

/-- Where `run` is in its loop. -/
inductive Phase
  /-- At the `select`. -/
  | waiting
  /-- `ReloadConfig`, before it reads the file. -/
  | reloading
  /-- `ReloadConfig`, with what `LoadFromFile` gave; `none` is its error. -/
  | loaded (file : Option ConfigFile)
  | shuttingDown
  | returned (err : Option GoError)

structure Process where
  /-- What `LoadFromFile` would give at the configured path. -/
  file : Option ConfigFile
  router : Router
  signalCh : Option Signal
  errCh : List ListenError
  phase : Phase

inductive Label
  /-- Somebody edits the file. -/
  | write (file : Option ConfigFile)
  | kill (sig : Signal)
  /-- `ServeHTTP` or `ServeMetrics` returns. -/
  | listenerEnds (err : ListenError)
  | receiveSignal
  | receiveError
  | load
  | swap
  | shutdown (err : Option GoError)

/-- `Swap`, unless the file did not load. -/
def swapped (r : Router) : Option ConfigFile → Router
  | none => r
  | some f => .load f

def step (s : Process) : Label → Option Process
  | .write file => some { s with file := file }
  | .kill sig =>
      match s.phase with
      | .returned _ => none
      -- A full channel keeps what it holds.
      | _ => some { s with signalCh := some (s.signalCh.getD sig) }
  | .listenerEnds err => some { s with errCh := s.errCh ++ [err] }
  | .receiveSignal =>
      match s.phase, s.signalCh with
      | .waiting, some .hup => some { s with signalCh := none, phase := .reloading }
      | .waiting, some _ => some { s with signalCh := none, phase := .shuttingDown }
      | _, _ => none
  | .receiveError =>
      match s.phase, s.errCh with
      | .waiting, .serverClosed :: rest => some { s with errCh := rest }
      | .waiting, .failed err :: rest =>
          some { s with errCh := rest, phase := .returned (some err) }
      | _, _ => none
  | .load =>
      match s.phase with
      | .reloading => some { s with phase := .loaded s.file }
      | _ => none
  | .swap =>
      match s.phase with
      | .loaded file => some { s with router := swapped s.router file, phase := .waiting }
      | _ => none
  | .shutdown err =>
      match s.phase with
      | .shuttingDown => some { s with phase := .returned err }
      | _ => none

/-- The process as `New` leaves it, when the file was `f`. -/
def start (f : ConfigFile) : Process :=
  { file := some f, router := .load f, signalCh := none, errCh := [], phase := .waiting }

/-- At the `select`, and no signal pending. -/
def Idle (s : Process) : Prop :=
  s.phase = .waiting ∧ s.signalCh = none

/-- What is served is what the file holds, if it can be read. -/
def Current (s : Process) : Prop :=
  ∀ f, s.file = some f → s.router = .load f

/-- `run` is on its way out. -/
inductive Leaving : Phase → Prop
  | shuttingDown : Leaving .shuttingDown
  | returned (err : Option GoError) : Leaving (.returned err)

variable {s s' t : Process} {l : Label} {ls : List Label}

/-! ## A step -/

/-- The ways in which a step other than an edit or a signal moves the loop. -/
theorem step_cases (h : step s l = some s') :
    (∃ file, l = .write file ∧ s' = { s with file := file }) ∨
    (∃ sig, l = .kill sig ∧ s' = { s with signalCh := some (s.signalCh.getD sig) }) ∨
    (s'.phase = s.phase ∧ s' = { s with errCh := s'.errCh }) ∨
    (s.phase = .waiting ∧ s.signalCh = some .hup ∧
      s' = { s with signalCh := none, phase := .reloading }) ∨
    (s.phase = .reloading ∧ s' = { s with phase := .loaded s.file }) ∨
    (∃ file, s.phase = .loaded file ∧
      s' = { s with router := swapped s.router file, phase := .waiting }) ∨
    (Leaving s'.phase ∧ s'.router = s.router) := by
  rcases s with ⟨file, router, signalCh, errCh, phase⟩
  cases l with
  | write file' =>
      cases h
      exact .inl ⟨file', rfl, rfl⟩
  | kill sig =>
      refine .inr (.inl ⟨sig, rfl, ?_⟩)
      cases phase <;> cases h <;> rfl
  | listenerEnds err =>
      cases h
      exact .inr (.inr (.inl ⟨rfl, rfl⟩))
  | receiveSignal =>
      cases phase <;> rcases signalCh with _ | _ | _ | _ <;> cases h
      · exact .inr (.inr (.inr (.inl ⟨rfl, rfl, rfl⟩)))
      all_goals exact .inr (.inr (.inr (.inr (.inr (.inr ⟨.shuttingDown, rfl⟩)))))
  | receiveError =>
      cases phase <;> rcases errCh with _ | ⟨_ | err, rest⟩ <;> cases h
      · exact .inr (.inr (.inl ⟨rfl, rfl⟩))
      · exact .inr (.inr (.inr (.inr (.inr (.inr ⟨.returned _, rfl⟩)))))
  | load =>
      cases phase <;> cases h
      exact .inr (.inr (.inr (.inr (.inl ⟨rfl, rfl⟩))))
  | swap =>
      cases phase <;> cases h
      exact .inr (.inr (.inr (.inr (.inr (.inl ⟨_, rfl, rfl⟩)))))
  | shutdown err =>
      cases phase <;> cases h
      exact .inr (.inr (.inr (.inr (.inr (.inr ⟨.returned _, rfl⟩)))))

/-- To a request that is being served, a step of the process is a reload or nothing. -/
theorem reload_of_step (p : Proxy) (q : Reload.ChatCall) (stage : Reload.Stage)
    (h : step s l = some s') :
    ∃ loaded, Reload.step p q ⟨s.router, stage⟩ (.reload loaded) = some ⟨s'.router, stage⟩ := by
  rcases step_cases h with ⟨file, -, rfl⟩ | ⟨sig, -, rfl⟩ | ⟨-, heq⟩ | ⟨-, -, rfl⟩ | ⟨-, rfl⟩ |
    ⟨file, -, rfl⟩ | ⟨-, hrouter⟩
  · exact ⟨none, rfl⟩
  · exact ⟨none, rfl⟩
  · rw [heq]
    exact ⟨none, rfl⟩
  · exact ⟨none, rfl⟩
  · exact ⟨none, rfl⟩
  · cases file with
    | none => exact ⟨none, rfl⟩
    | some f => exact ⟨some f, rfl⟩
  · rw [hrouter]
    exact ⟨none, rfl⟩

/-- The way out has no way back. -/
theorem leaving_of_step (h : step s l = some s') (hs : Leaving s.phase) : Leaving s'.phase := by
  rcases step_cases h with ⟨file, -, rfl⟩ | ⟨sig, -, rfl⟩ | ⟨hphase, -⟩ | ⟨hphase, -, -⟩ |
    ⟨hphase, -⟩ | ⟨file, hphase, -⟩ | ⟨hleaving, -⟩
  · exact hs
  · exact hs
  · rw [hphase]
    exact hs
  · rw [hphase] at hs
    cases hs
  · rw [hphase] at hs
    cases hs
  · rw [hphase] at hs
    cases hs
  · exact hleaving

/-! ## Edits of the file -/

/-- The file as it stands has been served or is going to be. -/
def Due (s : Process) : Prop :=
  s.signalCh ≠ none ∨ s.phase = .reloading ∨ s.phase = .loaded s.file ∨
    (s.phase = .waiting ∧ Current s) ∨ Leaving s.phase

theorem due_of_kill {sig : Signal} (h : step s (.kill sig) = some s') : Due s' := by
  have hpending : s'.signalCh ≠ none := by
    rcases s with ⟨file, router, signalCh, errCh, phase⟩
    cases phase <;> cases h <;> simp
  exact .inl hpending

theorem current_swapped (s : Process) :
    Current { s with router := swapped s.router s.file, phase := .waiting } := by
  intro f hf
  have hf' : s.file = some f := hf
  show swapped s.router s.file = .load f
  rw [hf', swapped]

theorem due_of_step (hwrite : ∀ file, l ≠ .write file) (h : step s l = some s') (hs : Due s) :
    Due s' := by
  rcases step_cases h with ⟨file, rfl, -⟩ | ⟨sig, rfl, -⟩ | ⟨hphase, heq⟩ | ⟨-, -, rfl⟩ |
    ⟨-, rfl⟩ | ⟨file, hphase, rfl⟩ | ⟨hleaving, -⟩
  · exact absurd rfl (hwrite file)
  · exact due_of_kill h
  · rw [heq]
    exact hs
  · exact .inr (.inl rfl)
  · exact .inr (.inr (.inl rfl))
  · -- What was read is put in force; if the file is newer than that, a signal is pending.
    rcases hs with hpending | hother | hloaded | ⟨hother, -⟩ | hother
    · exact .inl hpending
    · rw [hphase] at hother
      cases hother
    · have hfile : file = s.file := by
        rw [hphase] at hloaded
        exact Phase.loaded.inj hloaded
      subst hfile
      exact .inr (.inr (.inr (.inl ⟨rfl, current_swapped s⟩)))
    · rw [hphase] at hother
      cases hother
    · rw [hphase] at hother
      cases hother
  · exact .inr (.inr (.inr (.inr hleaving)))

theorem current_of_due (hs : Due s) (hidle : Idle s) : Current s := by
  rcases hidle with ⟨hphase, hpending⟩
  rcases hs with h | h | h | ⟨-, h⟩ | h
  · exact absurd hpending h
  · rw [hphase] at h
    cases h
  · rw [hphase] at h
    cases h
  · exact h
  · rw [hphase] at h
    cases h

/-- A SIGHUP after the last edit of the file is enough for the edit to be served, whatever the
process was doing when it was sent and even if it was lost. -/
theorem current_of_run {f : ConfigFile} {past rest : List Label}
    (hwrite : ∀ file, .write file ∉ rest)
    (h : exec step (start f) (past ++ .kill .hup :: rest) = some t) (hidle : Idle t) :
    Current t := by
  rcases exec_append.1 h with ⟨s₁, -, hrest⟩
  rcases exec_cons.1 hrest with ⟨s₂, hkill, hrest⟩
  have hlabels : Guarded step (fun _ l => ∀ file, l ≠ .write file) s₂ rest := by
    refine guarded_of_forall fun l hl file heq => ?_
    rw [heq] at hl
    exact hwrite file hl
  have hdue : Due t :=
    exec_invariant_of_guarded (fun s l s' hs hg hstep => due_of_step hg hstep hs)
      (due_of_kill hkill) hlabels hrest
  exact current_of_due hdue hidle

/-- Two edits, each followed by a SIGHUP.  The second signal is lost: it finds the first still
pending. -/
theorem current_of_run_twice : ∃ t, Idle t ∧ t.file ≠ none ∧ Current t := by
  have hrun : exec step (start ⟨∅, []⟩)
      ([.write none, .kill .hup, .write (some ⟨∅, [⟨"m", "p", []⟩]⟩)] ++
        .kill .hup :: [.receiveSignal, .load, .swap]) =
      some ⟨some ⟨∅, [⟨"m", "p", []⟩]⟩, .load ⟨∅, [⟨"m", "p", []⟩]⟩, none, [], .waiting⟩ := rfl
  exact ⟨_, ⟨rfl, rfl⟩, by simp, current_of_run (by simp) hrun ⟨rfl, rfl⟩⟩

/-! ## Requests to stop -/

/-- A request to stop is pending or being acted on. -/
def Stopping (s : Process) : Prop :=
  (∃ sig, s.signalCh = some sig ∧ sig ≠ .hup) ∨ Leaving s.phase

theorem stopping_of_step (h : step s l = some s') (hs : Stopping s) : Stopping s' := by
  rcases hs with ⟨sig, hsig, hne⟩ | hleaving
  · rcases step_cases h with ⟨file, -, rfl⟩ | ⟨sig', -, rfl⟩ | ⟨-, heq⟩ | ⟨-, hhup, -⟩ |
      ⟨-, rfl⟩ | ⟨file, -, rfl⟩ | ⟨hleaving, -⟩
    · exact .inl ⟨sig, hsig, hne⟩
    · exact .inl ⟨sig, by simp [hsig], hne⟩
    · rw [heq]
      exact .inl ⟨sig, hsig, hne⟩
    · rw [hsig] at hhup
      exact absurd (Option.some.inj hhup) hne
    · exact .inl ⟨sig, hsig, hne⟩
    · exact .inl ⟨sig, hsig, hne⟩
    · exact .inr hleaving
  · exact .inr (leaving_of_step h hleaving)

theorem not_stopping_of_idle (hidle : Idle s) : ¬ Stopping s := by
  rcases hidle with ⟨hphase, hpending⟩
  rintro (⟨sig, hsig, -⟩ | h)
  · rw [hpending] at hsig
    cases hsig
  · rw [hphase] at h
    cases h

/-- A request to stop takes effect unless it finds a SIGHUP pending, which hides it. -/
theorem kill_cases {sig : Signal} (hsig : sig ≠ .hup) (h : step s (.kill sig) = some s') :
    Stopping s' ∨ (s.signalCh = some .hup ∧ s' = s) := by
  rcases s with ⟨file, router, signalCh, errCh, phase⟩
  rcases signalCh with _ | held
  · left
    cases phase <;> cases h <;> exact .inl ⟨sig, rfl, hsig⟩
  · by_cases hheld : held = .hup
    · right
      subst hheld
      cases phase <;> cases h <;> exact ⟨rfl, rfl⟩
    · left
      cases phase <;> cases h <;> exact .inl ⟨held, rfl, hheld⟩

/-- If the process comes to rest, each request to stop that it was sent arrived while a SIGHUP was
pending, and the process went on as if it had not been sent. -/
theorem lost_of_run {f : ConfigFile} {past rest : List Label} {sig : Signal} (hsig : sig ≠ .hup)
    (h : exec step (start f) (past ++ .kill sig :: rest) = some t) (hidle : Idle t) :
    (∃ s, exec step (start f) past = some s ∧ s.signalCh = some .hup) ∧
      exec step (start f) (past ++ rest) = some t := by
  rcases exec_append.1 h with ⟨s₁, hpast, hrest⟩
  rcases exec_cons.1 hrest with ⟨s₂, hkill, hafter⟩
  rcases kill_cases hsig hkill with hstopping | ⟨hpending, rfl⟩
  · have hend : Stopping t :=
      exec_invariant (fun s l s' hs hstep => stopping_of_step hstep hs) hstopping hafter
    exact absurd hend (not_stopping_of_idle hidle)
  · exact ⟨⟨s₂, hpast, hpending⟩, exec_append.2 ⟨s₂, hpast, hafter⟩⟩

theorem lost_of_run_term :
    exec step (start ⟨∅, []⟩)
      ([.kill .hup] ++ [.receiveSignal, .load, .swap]) = some (start ⟨∅, []⟩) := by
  have hrun : exec step (start ⟨∅, []⟩)
      ([.kill .hup] ++ .kill .term :: [.receiveSignal, .load, .swap]) =
        some (start ⟨∅, []⟩) := rfl
  exact (lost_of_run (by decide) hrun ⟨rfl, rfl⟩).2

end Lifecycle

end Gateway
end OpenRouter
