import OpenRouter.Gateway.Proxy

/-!
# Relay — the body of an accepted reply, write by write

`translated` is what a translator makes of a list of reads: a list of writes and the failure that
ends them.  `relay_eq` says that `relay` makes these writes up to the first that fails and does
nothing else to the exchange.
-/

namespace OpenRouter
namespace Gateway

open Base

/-! ## What a relayed reply comes to -/

/-- The writes that a translator makes of the reads to come, and the failure that ends them. -/
def translated (tr : StreamTranslator) (readError : Option GoError) :
    List Bytes → tr.State → List Bytes × Option SendFailure
  | chunk :: reads, s =>
      if chunk.length = 0 then translated tr readError reads s
      else
        match (tr.translate s chunk).2 with
        | .error err => ((tr.translate s chunk).1, some (.translate err))
        | .ok s' =>
            ((tr.translate s chunk).1 ++ (translated tr readError reads s').1,
              (translated tr readError reads s').2)
  | [], s =>
      match readError with
      | some err => ([], some (.read err))
      | none =>
          match (tr.close s).2 with
          | .error err => ((tr.close s).1, some (.translate err))
          | .ok _ => ((tr.close s).1, none)

/-- The body that an adapter makes of a reply, write by write, and the failure that ends it. -/
def ProviderAdapter.output (a : ProviderAdapter) (stream : Bool) (resp : Reply) :
    List Bytes × Option SendFailure :=
  if stream then
    translated a.newStreamTranslator resp.readError resp.reads a.newStreamTranslator.start
  else
    match resp.readAll with
    | .error err => ([], some (.read err))
    | .ok full =>
        match a.normalizeResponse full with
        | .error err => ([], some (.response err))
        | .ok normalized => ([normalized], none)

/-- The first of `k` writes from the `n`-th on that fails. -/
def firstFault (fault : ℕ → Option (ℕ × GoError)) : ℕ → ℕ → Option GoError
  | _, 0 => none
  | n, k + 1 =>
      match fault n with
      | some (_, err) => some err
      | none => firstFault fault (n + 1) k

/-- How a relayed reply fails, when it does: at the first write that fails, or where its body
ends. -/
def relayFailure (fault : ℕ → Option (ℕ × GoError)) (n : ℕ)
    (out : List Bytes × Option SendFailure) :
    Option SendFailure :=
  match firstFault fault n out.1.length with
  | some err => some (.write err)
  | none => out.2

theorem firstFault_add (fault : ℕ → Option (ℕ × GoError)) (n j k : ℕ) :
    firstFault fault n (j + k) = (firstFault fault n j).or (firstFault fault (n + j) k) := by
  induction j generalizing n with
  | zero => simp [firstFault]
  | succ j ih =>
      rw [Nat.succ_add, firstFault, firstFault]
      cases hfault : fault n with
      | some f => simp
      | none => simp [ih, Nat.add_assoc, Nat.add_comm 1 j]

theorem firstFault_eq_none {fault : ℕ → Option (ℕ × GoError)} (h : ∀ n, fault n = none)
    (n k : ℕ) : firstFault fault n k = none := by
  induction k generalizing n with
  | zero => rfl
  | succ k ih => simp [firstFault, h, ih]

/-- What a translation fails with is the translator's error or the upstream's. -/
theorem failure_of_translated {tr : StreamTranslator} {readError : Option GoError}
    {reads : List Bytes} {s : tr.State} {f : SendFailure}
    (h : (translated tr readError reads s).2 = some f) :
    (∃ err, f = .translate err) ∨ ∃ err, f = .read err ∧ readError = some err := by
  induction reads generalizing s with
  | nil =>
      cases readError with
      | some err =>
          cases h
          exact .inr ⟨err, rfl, rfl⟩
      | none =>
          cases hclose : (tr.close s).2 with
          | error err =>
              simp only [translated, hclose] at h
              cases h
              exact .inl ⟨err, rfl⟩
          | ok s' => simp [translated, hclose] at h
  | cons chunk reads ih =>
      by_cases hchunk : chunk.length = 0
      · exact ih (by simpa [translated, hchunk] using h)
      · cases htr : (tr.translate s chunk).2 with
        | error err =>
            simp only [translated, hchunk, if_false, htr] at h
            cases h
            exact .inl ⟨err, rfl⟩
        | ok s' => exact ih (by simpa [translated, hchunk, htr] using h)

theorem failure_of_output {a : ProviderAdapter} {stream : Bool} {resp : Reply} {f : SendFailure}
    (h : (a.output stream resp).2 = some f) :
    (∃ err, f = .translate err) ∨ (∃ err, f = .response err) ∨
      ∃ err, f = .read err ∧ resp.readError = some err := by
  cases stream with
  | true =>
      rcases failure_of_translated h with htranslate | hread
      · exact .inl htranslate
      · exact .inr (.inr hread)
  | false =>
      cases hread : resp.readError with
      | some err =>
          have hall : resp.readAll = .error err := by
            simp [Reply.readAll, hread]
          simp only [ProviderAdapter.output, hall] at h
          cases h
          exact .inr (.inr ⟨err, rfl, rfl⟩)
      | none =>
          have hall : resp.readAll = .ok resp.reads.flatten := by
            simp [Reply.readAll, hread]
          cases hnorm : a.normalizeResponse resp.reads.flatten with
          | error err =>
              simp only [ProviderAdapter.output, hall, hnorm] at h
              cases h
              exact .inr (.inl ⟨err, rfl⟩)
          | ok normalized => simp [ProviderAdapter.output, hall, hnorm] at h

/-- The events of a body that target `i` writes. -/
def BodyOf (i : ℕ) (e : Event) : Prop :=
  e = .flush ∨ ∃ bs, e = .write (.target i) bs

/-- Only body events of target `i` are added. -/
structure Wrote (i : ℕ) (x x' : Exchange) : Prop where
  fault : x'.fault = x.fault
  events : ∃ es, x'.events = x.events ++ es ∧ ∀ e ∈ es, BodyOf i e

namespace Wrote

variable {i : ℕ} {x y z : Exchange}

theorem refl (i : ℕ) (x : Exchange) : Wrote i x x :=
  { fault := rfl
    events := ⟨[], by simp, by simp⟩ }

theorem trans (h : Wrote i x y) (h' : Wrote i y z) : Wrote i x z := by
  rcases h.events with ⟨es, hes, hbody⟩
  rcases h'.events with ⟨es', hes', hbody'⟩
  refine
    { fault := h'.fault.trans h.fault
      events := ⟨es ++ es', by rw [hes', hes, List.append_assoc], ?_⟩ }
  exact List.forall_mem_append.2 ⟨hbody, hbody'⟩

theorem flush (i : ℕ) (x : Exchange) : Wrote i x x.flush := by
  unfold Exchange.flush
  split
  · exact { fault := rfl, events := ⟨[.flush], rfl, by simp [BodyOf]⟩ }
  · exact refl i x

theorem write (i : ℕ) (x : Exchange) (bs : Bytes) : Wrote i x (x.write (.target i) bs).2 := by
  unfold Exchange.write
  split
  · exact { fault := rfl, events := ⟨[.write (.target i) bs], rfl, by simp [BodyOf]⟩ }
  · rename_i n err hfault
    exact { fault := rfl, events := ⟨[.write (.target i) (bs.take n)], rfl, by simp [BodyOf]⟩ }

theorem writeAll (i : ℕ) (x : Exchange) (ws : List Bytes) :
    Wrote i x (x.writeAll (.target i) ws).2 := by
  induction ws generalizing x with
  | nil => exact refl i x
  | cons bs ws ih =>
      have hwrite := write i x bs
      cases hw : x.write (.target i) bs with
      | mk r x' =>
          rw [hw] at hwrite
          cases r with
          | some err => simpa [Exchange.writeAll, hw] using hwrite
          | none => simpa [Exchange.writeAll, hw] using hwrite.trans (ih x')

end Wrote

theorem writes_flush (x : Exchange) : x.flush.writes = x.writes := by
  unfold Exchange.flush
  split <;> rfl

/-- The exchange behind writes that did not fail. -/
def Exchange.wrote (x : Exchange) (i : ℕ) (ws : List Bytes) : Exchange :=
  { x with
    writes := x.writes + ws.length
    events := x.events ++ ws.map (.write (.target i)) }

theorem writeAll_of_firstFault (i : ℕ) {x : Exchange} {ws : List Bytes}
    (h : firstFault x.fault x.writes ws.length = none) :
    x.writeAll (.target i) ws = (none, x.wrote i ws) := by
  induction ws generalizing x with
  | nil => simp [Exchange.writeAll, Exchange.wrote]
  | cons bs ws ih =>
      cases hfault : x.fault x.writes with
      | some f => simp [firstFault, hfault] at h
      | none =>
          have hrest : firstFault x.fault (x.writes + 1) ws.length = none := by
            simpa [firstFault, hfault] using h
          have hwrite : x.write (.target i) bs = (none, x.wrote i [bs]) := by
            simp [Exchange.write, hfault, Exchange.wrote, Exchange.record]
          have hall : (x.wrote i [bs]).writeAll (.target i) ws =
              (none, (x.wrote i [bs]).wrote i ws) := ih hrest
          have hsum : x.writes + 1 + ws.length = x.writes + (ws.length + 1) := by omega
          simp only [Exchange.writeAll, hwrite, hall]
          simp [Exchange.wrote, hsum]

theorem wrote_wrote (x : Exchange) (i : ℕ) (ws ws' : List Bytes) :
    (x.wrote i ws).wrote i ws' = x.wrote i (ws ++ ws') := by
  simp [Exchange.wrote, Nat.add_assoc]

/-- Writes fail at the first fault, and are counted. -/
theorem writeAll_eq (i : ℕ) (x : Exchange) (ws : List Bytes) :
    (x.writeAll (.target i) ws).1 = firstFault x.fault x.writes ws.length ∧
      (firstFault x.fault x.writes ws.length = none →
        (x.writeAll (.target i) ws).2.writes = x.writes + ws.length) := by
  constructor
  · induction ws generalizing x with
    | nil => simp [Exchange.writeAll, firstFault]
    | cons bs ws ih =>
        cases hfault : x.fault x.writes with
        | some f => simp [Exchange.writeAll, Exchange.write, firstFault, hfault]
        | none =>
            simp [Exchange.writeAll, Exchange.write, firstFault, hfault, ih, Exchange.record]
  · intro hnone
    rw [writeAll_of_firstFault i hnone]
    rfl

/-- What one chunk comes to. -/
theorem writeChunk_eq (tr : StreamTranslator) (i : ℕ) (s : tr.State) {chunk : Bytes}
    (x : Exchange) (hchunk : chunk.length ≠ 0) :
    Wrote i x (writeChunk tr i s chunk x).2 ∧
      match firstFault x.fault x.writes (tr.translate s chunk).1.length with
      | some err => (writeChunk tr i s chunk x).1 = .error (.write err)
      | none =>
          match (tr.translate s chunk).2 with
          | .error err => (writeChunk tr i s chunk x).1 = .error (.translate err)
          | .ok s' =>
              (writeChunk tr i s chunk x).1 = .ok s' ∧
                (writeChunk tr i s chunk x).2.writes =
                  x.writes + (tr.translate s chunk).1.length := by
  have hwrote := Wrote.writeAll i x (tr.translate s chunk).1
  rcases writeAll_eq i x (tr.translate s chunk).1 with ⟨hfirst, hcount⟩
  cases hall : x.writeAll (.target i) (tr.translate s chunk).1 with
  | mk r y =>
      rw [hall] at hwrote hfirst hcount
      simp only at hfirst hcount
      -- The cases are whether a write fails, and then how the translation ends.
      rw [← hfirst] at hcount ⊢
      cases r with
      | some err =>
          simp only [writeChunk, hchunk, if_false, hall]
          exact ⟨hwrote, trivial⟩
      | none =>
          cases hend : (tr.translate s chunk).2 with
          | error err =>
              simp only [writeChunk, hchunk, if_false, hall, hend]
              exact ⟨hwrote, trivial⟩
          | ok s' =>
              simp only [writeChunk, hchunk, if_false, hall, hend]
              refine ⟨hwrote.trans (Wrote.flush i y), trivial, ?_⟩
              rw [writes_flush, hcount rfl]

theorem relayFailure_append (fault : ℕ → Option (ℕ × GoError)) (n : ℕ) (ws : List Bytes)
    (out : List Bytes × Option SendFailure) (h : firstFault fault n ws.length = none) :
    relayFailure fault n (ws ++ out.1, out.2) = relayFailure fault (n + ws.length) out := by
  simp [relayFailure, firstFault_add, h]

/-- Behind the last read: `Close`, unless the reader failed. -/
theorem streamLoop_nil_eq (tr : StreamTranslator) (i : ℕ) (readError : Option GoError)
    (s : tr.State) (x : Exchange) :
    (streamLoop tr i readError [] s x).1 =
        relayFailure x.fault x.writes (translated tr readError [] s) ∧
      Wrote i x (streamLoop tr i readError [] s x).2 := by
  cases readError with
  | some err => exact ⟨by simp [streamLoop, translated, relayFailure, firstFault], Wrote.refl i x⟩
  | none =>
      have hwrote := Wrote.writeAll i x (tr.close s).1
      rcases writeAll_eq i x (tr.close s).1 with ⟨hfirst, -⟩
      cases hall : x.writeAll (.target i) (tr.close s).1 with
      | mk r y =>
          rw [hall] at hwrote hfirst
          simp only at hfirst
          cases r with
          | some err =>
              -- A failed write hides the error of `Close`.
              cases hend : (tr.close s).2 <;>
                simp [streamLoop, translated, finishStream, relayFailure, hall, hend,
                  ← hfirst, hwrote]
          | none =>
              cases hend : (tr.close s).2 with
              | error err =>
                  simp [streamLoop, translated, finishStream, relayFailure, hall, hend,
                    ← hfirst, hwrote]
              | ok u =>
                  simp [streamLoop, translated, finishStream, relayFailure, hall, hend,
                    ← hfirst, hwrote.trans (Wrote.flush i y)]

/-- A stream is the writes of its translation up to the first fault. -/
theorem streamLoop_eq (tr : StreamTranslator) (i : ℕ) (readError : Option GoError)
    (reads : List Bytes) (s : tr.State) (x : Exchange) :
    (streamLoop tr i readError reads s x).1 =
        relayFailure x.fault x.writes (translated tr readError reads s) ∧
      Wrote i x (streamLoop tr i readError reads s x).2 := by
  induction reads generalizing s x with
  | nil => exact streamLoop_nil_eq tr i readError s x
  | cons chunk reads ih =>
      by_cases hchunk : chunk.length = 0
      -- A read of no bytes is skipped on both sides.
      · have hstep : writeChunk tr i s chunk x = (.ok s, x) := by
          simp [writeChunk, hchunk]
        simpa [streamLoop, translated, hstep, hchunk] using ih s x
      · rcases writeChunk_eq tr i s x hchunk with ⟨hwrote, hcases⟩
        cases hstep : writeChunk tr i s chunk x with
        | mk r y =>
            rw [hstep] at hwrote hcases
            simp only at hcases
            cases hfirst : firstFault x.fault x.writes (tr.translate s chunk).1.length with
            | some err =>
                rw [hfirst] at hcases
                simp only at hcases
                -- The write fails before the translator's error is looked at.
                subst hcases
                refine ⟨?_, by simpa [streamLoop, hstep] using hwrote⟩
                cases hend : (tr.translate s chunk).2 <;>
                  simp [streamLoop, translated, relayFailure, hstep, hchunk, hend, hfirst,
                    firstFault_add]
            | none =>
                rw [hfirst] at hcases
                cases hend : (tr.translate s chunk).2 with
                | error err =>
                    rw [hend] at hcases
                    simp only at hcases
                    subst hcases
                    refine ⟨?_, by simpa [streamLoop, hstep] using hwrote⟩
                    simp [streamLoop, translated, relayFailure, hstep, hchunk, hend, hfirst]
                | ok s' =>
                    rw [hend] at hcases
                    rcases hcases with ⟨hr, hcount⟩
                    subst hr
                    rcases ih s' y with ⟨hrest, hwrote'⟩
                    have hout : translated tr readError (chunk :: reads) s =
                        ((tr.translate s chunk).1 ++ (translated tr readError reads s').1,
                          (translated tr readError reads s').2) := by
                      simp [translated, hchunk, hend]
                    -- The writes of this chunk are through, so faults count on from there.
                    rw [hout, relayFailure_append _ _ _ _ hfirst, ← hwrote.fault, ← hcount]
                    refine ⟨?_, ?_⟩
                    · simpa [streamLoop, hstep] using hrest
                    · simpa [streamLoop, hstep] using hwrote.trans hwrote'

/-- An accepted reply: the header goes out, then the body up to its first failure. -/
theorem relay_eq (a : ProviderAdapter) (i : ℕ) (stream : Bool) (resp : Reply) (x : Exchange) :
    (relay a i stream resp x).1 = relayFailure x.fault x.writes (a.output stream resp) ∧
      Wrote i
        ((x.record (.setHeader "Content-Type" resp.contentType)).record
          (.writeHeader (.target i) resp.status))
        (relay a i stream resp x).2 := by
  let y : Exchange := (x.record (.setHeader "Content-Type" resp.contentType)).record
    (.writeHeader (.target i) resp.status)
  change (relay a i stream resp x).1 = relayFailure y.fault y.writes (a.output stream resp) ∧
    Wrote i y (relay a i stream resp x).2
  cases stream with
  | true =>
      exact streamLoop_eq a.newStreamTranslator i resp.readError resp.reads
        a.newStreamTranslator.start y
  | false =>
      have hrelay : relay a i false resp x = bufferedResponse a i resp y := by
        simp [relay, y]
      rw [hrelay]
      cases hread : resp.readAll with
      | error err =>
          simp [bufferedResponse, ProviderAdapter.output, relayFailure, firstFault, hread,
            Wrote.refl]
      | ok full =>
          cases hnorm : a.normalizeResponse full with
          | error err =>
              simp [bufferedResponse, ProviderAdapter.output, relayFailure, firstFault, hread,
                hnorm, Wrote.refl]
          | ok normalized =>
              have hwrote := Wrote.write i y normalized
              cases hfault : y.fault y.writes with
              | none =>
                  simp [Exchange.write, hfault] at hwrote
                  simp [bufferedResponse, ProviderAdapter.output, relayFailure, firstFault, hread,
                    hnorm, Exchange.write, hfault, hwrote]
              | some f =>
                  simp [Exchange.write, hfault] at hwrote
                  simp [bufferedResponse, ProviderAdapter.output, relayFailure, firstFault, hread,
                    hnorm, Exchange.write, hfault, hwrote]

/-! ## Events are only added -/

theorem Wrote.grows {i : ℕ} {x y : Exchange} (h : Wrote i x y) : x.events <+: y.events := by
  rcases h.events with ⟨es, hes, -⟩
  exact ⟨es, hes.symm⟩

theorem grows_relay (a : ProviderAdapter) (i : ℕ) (stream : Bool) (resp : Reply) (x : Exchange) :
    x.events <+: (relay a i stream resp x).2.events :=
  ((List.prefix_append _ _).trans (List.prefix_append _ _)).trans
    (relay_eq a i stream resp x).2.grows

/-- `relay` contacts nobody. -/
theorem contact_of_relay {k : ℕ} {t : Target} {o : Outbound} (a : ProviderAdapter) (i : ℕ)
    (stream : Bool) (resp : Reply) (x : Exchange)
    (h : .contact k t o ∈ (relay a i stream resp x).2.events) : .contact k t o ∈ x.events := by
  rcases (relay_eq a i stream resp x).2.events with ⟨es, hes, hbody⟩
  rw [hes] at h
  rcases List.mem_append.1 h with h | h
  · simpa [Exchange.record] using h
  · rcases hbody _ h with hflush | ⟨bs, hwrite⟩
    · cases hflush
    · cases hwrite

namespace Proxy

variable {p : Proxy} {env : ℕ → Attempt} {body : Bytes} {stream : Bool} {i : ℕ}
  {lastErr : GoError} {t : Target} {ts : List Target} {x : Exchange}

/-- A target that is contacted leaves the contact behind it, if the rest of the chain only adds
events. -/
theorem grows_of_prepare {c : ProviderAdapter × Outbound} (hprep : p.prepare (env i) body t = .ok c)
    (hrest : ∀ {i lastErr x}, x.events <+: (p.tryTargets env body stream i lastErr ts x).2.events) :
    (x.record (.contact i t c.2)).events <+:
      (p.tryTargets env body stream i lastErr (t :: ts) x).2.events := by
  cases hanswer : (env i).answer p.runtime with
  | error err =>
      rw [tryTargets_of_decline hprep hanswer]
      exact hrest
  | ok resp =>
      rw [tryTargets_of_relay hprep hanswer]
      have hrelay := grows_relay c.1 i stream resp (x.record (.contact i t c.2))
      cases hresult : relay c.1 i stream resp (x.record (.contact i t c.2)) with
      | mk r x' =>
          rw [hresult] at hrelay
          cases r with
          | none => exact hrelay
          | some f => exact hrelay.trans hrest

/-- The events of an exchange are only added to. -/
theorem grows_tryTargets :
    x.events <+: (p.tryTargets env body stream i lastErr ts x).2.events := by
  induction ts generalizing i lastErr x with
  | nil => exact List.prefix_rfl
  | cons t ts ih =>
      cases hprep : p.prepare (env i) body t with
      | error err =>
          rw [tryTargets_of_skip hprep]
          exact ih
      | ok c => exact (List.prefix_append _ _).trans (grows_of_prepare hprep ih)

/-- A contact that a chain adds is a prepared request of one of its targets. -/
theorem prepare_of_contact {k : ℕ} {o : Outbound}
    (h : .contact k t o ∈ (p.tryTargets env body stream i lastErr ts x).2.events) :
    .contact k t o ∈ x.events ∨
      ∃ j a, ts[j]? = some t ∧ k = i + j ∧ p.prepare (env k) body t = .ok (a, o) := by
  induction ts generalizing i lastErr x with
  | nil => exact .inl h
  | cons t' ts ih =>
      -- A contact of the targets behind `t'` is one of the whole chain.
      have hlater : (∃ j a, ts[j]? = some t ∧ k = i + 1 + j ∧
            p.prepare (env k) body t = .ok (a, o)) →
          ∃ j a, (t' :: ts)[j]? = some t ∧ k = i + j ∧
            p.prepare (env k) body t = .ok (a, o) := by
        rintro ⟨j, a, hj, hk, hprep⟩
        exact ⟨j + 1, a, hj, by omega, hprep⟩
      cases hprep : p.prepare (env i) body t' with
      | error err =>
          rw [tryTargets_of_skip hprep] at h
          exact (ih h).imp_right hlater
      | ok c =>
          have hhere : .contact k t o ∈ (x.record (.contact i t' c.2)).events →
              .contact k t o ∈ x.events ∨
                ∃ j a, (t' :: ts)[j]? = some t ∧ k = i + j ∧
                  p.prepare (env k) body t = .ok (a, o) := by
            intro hmem
            rcases List.mem_append.1 hmem with hmem | hmem
            · exact .inl hmem
            · cases List.mem_singleton.1 hmem
              exact .inr ⟨0, c.1, rfl, rfl, hprep⟩
          cases hanswer : (env i).answer p.runtime with
          | error err =>
              rw [tryTargets_of_decline hprep hanswer] at h
              rcases ih h with hmem | hmem
              · exact hhere hmem
              · exact .inr (hlater hmem)
          | ok resp =>
              rw [tryTargets_of_relay hprep hanswer] at h
              have hrelay := contact_of_relay (k := k) (t := t) (o := o)
                c.1 i stream resp (x.record (.contact i t' c.2))
              cases hresult : relay c.1 i stream resp (x.record (.contact i t' c.2)) with
              | mk r x' =>
                  rw [hresult] at h hrelay
                  cases r with
                  | none => exact hhere (hrelay h)
                  | some f =>
                      rcases ih h with hmem | hmem
                      · exact hhere (hrelay hmem)
                      · exact .inr (hlater hmem)

end Proxy

end Gateway
end OpenRouter
