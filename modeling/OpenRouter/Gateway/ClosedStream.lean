import OpenRouter.Base.JsonLines
import OpenRouter.Base.Separators
import OpenRouter.Gateway.Closing

/-!
# ClosedStream — calls on a translator that is closed

`Close` sets `finished`, which `Close` looks at and `Translate` does not.  The end mark is written
once whatever the calls are; when a closed translator writes nothing more is said by
`closed_for_good_iff`.
-/

namespace OpenRouter
namespace Gateway

open Base

/-! ## What a call leaves -/

/-- What a call has written, the error it returns, and the translator it leaves. -/
structure CallResult where
  writes : List Bytes
  err : Option GoError
  left : AnthropicStream

namespace AnthropicStream

/-- The loop of `Translate` with the translator that is left behind an error: the line is out of the
buffer, and the event stands as it was. -/
def translateLinesKeeping (rt : Runtime) : ℕ → AnthropicStream → CallResult
  | 0, t => { writes := [], err := none, left := t }
  | fuel + 1, t =>
      match takeLine t.lineBuf with
      | none => { writes := [], err := none, left := t }
      | some (raw, rest) =>
          let t := { t with lineBuf := rest }
          if trimCR raw = [] then
            match t.dispatch rt with
            | (ws, .error err) => { writes := ws, err := some err, left := t }
            | (ws, .ok t) =>
                let more := translateLinesKeeping rt fuel
                  { t with currentEvent := [], currentData := [] }
                { more with writes := ws ++ more.writes }
          else translateLinesKeeping rt fuel (t.consumeLine (trimCR raw))

def translateKeeping (rt : Runtime) (t : AnthropicStream) (chunk : Bytes) : CallResult :=
  let t := { t with lineBuf := t.lineBuf ++ chunk }
  t.translateLinesKeeping rt t.lineBuf.length

end AnthropicStream

/-- The result without the translator behind an error. -/
def CallResult.forget (r : CallResult) : List Bytes × Except GoError AnthropicStream :=
  (r.writes, match r.err with
    | some err => .error err
    | none => .ok r.left)

theorem translateLines_eq_forget (rt : Runtime) (fuel : ℕ) (t : AnthropicStream) :
    t.translateLines rt fuel = (t.translateLinesKeeping rt fuel).forget := by
  induction fuel generalizing t with
  | zero => rfl
  | succ fuel ih =>
      rw [AnthropicStream.translateLines, AnthropicStream.translateLinesKeeping]
      cases hline : takeLine t.lineBuf with
      | none => rfl
      | some p =>
          rcases p with ⟨raw, rest⟩
          by_cases hblank : trimCR raw = []
          -- The two loops part at a failed dispatch only, where one drops the translator.
          · simp only [hblank, if_true]
            rcases ({ t with lineBuf := rest } : AnthropicStream).dispatch rt with ⟨ws, err | t'⟩
            · rfl
            · simp only [ih]
              rfl
          · simp only [hblank, if_false]
            exact ih _

/-- `Translate` is what it was, and more is known of the translator it leaves. -/
theorem translate_eq_forget (rt : Runtime) (t : AnthropicStream) (chunk : Bytes) :
    t.translate rt chunk = (t.translateKeeping rt chunk).forget :=
  translateLines_eq_forget rt _ _

/-! ## Calls in any order -/

/-- What `Close` writes. -/
def endMark : Bytes :=
  bytesOf "data: [DONE]\n\n"

/-- A call of `Translate`, with the surroundings of its time, or of `Close`.  The writer takes all
that it is given. -/
inductive StreamCall
  | translate (rt : Runtime) (chunk : Bytes)
  | close

def StreamCall.run (t : AnthropicStream) : StreamCall → CallResult
  | .translate rt chunk => t.translateKeeping rt chunk
  | .close =>
      if t.finished then { writes := [], err := none, left := t }
      else { writes := [endMark], err := none, left := { t with finished := true } }

theorem close_eq_forget (rt : Runtime) (t : AnthropicStream) :
    (anthropicStreamTranslator rt).close t = (StreamCall.close.run t).forget := by
  cases hfinished : t.finished <;>
    simp [anthropicStreamTranslator, StreamCall.run, CallResult.forget, hfinished, endMark]

/-- The translator behind some calls. -/
def stateAfter (t : AnthropicStream) (calls : List StreamCall) : AnthropicStream :=
  calls.foldl (fun t c => (c.run t).left) t

/-- All that the calls write, in order. -/
def writesOf (t : AnthropicStream) : List StreamCall → List Bytes
  | [] => []
  | c :: calls => (c.run t).writes ++ writesOf (c.run t).left calls

/-- The output of the calls on a new translator. -/
def output (calls : List StreamCall) : Bytes :=
  (writesOf {} calls).flatten

/-! ## The events that a chunk completes -/

/-- The whole lines of a text, without their line feeds. -/
def wholeLines : Bytes → List Bytes
  | [] => []
  | b :: bs =>
      if b = 10 then [] :: wholeLines bs
      else
        match wholeLines bs with
        | [] => []
        | line :: lines => (b :: line) :: lines

theorem wholeLines_of_none {bs : Bytes} (h : takeLine bs = none) : wholeLines bs = [] := by
  induction bs with
  | nil => rfl
  | cons b bs ih =>
      by_cases hb : b = 10
      · simp [takeLine, hb] at h
      · simp only [takeLine, hb, if_false, Option.map_eq_none_iff] at h
        simp [wholeLines, hb, ih h]

theorem wholeLines_of_some {bs raw rest : Bytes} (h : takeLine bs = some (raw, rest)) :
    wholeLines bs = raw :: wholeLines rest := by
  induction bs generalizing raw with
  | nil => cases h
  | cons b bs ih =>
      by_cases hb : b = 10
      · simp only [takeLine, hb, if_true, Option.some.injEq, Prod.mk.injEq] at h
        rcases h with ⟨rfl, rfl⟩
        simp [wholeLines, hb]
      · simp only [takeLine, hb, if_false, Option.map_eq_some_iff, Prod.mk.injEq] at h
        rcases h with ⟨⟨raw', rest'⟩, hline, rfl, rfl⟩
        simp [wholeLines, hb, ih hline]

theorem length_wholeLines_le (bs : Bytes) : (wholeLines bs).length ≤ bs.length := by
  induction bs with
  | nil => exact le_rfl
  | cons b bs ih =>
      rw [wholeLines]
      split_ifs with hb
      · simpa using ih
      · cases hlines : wholeLines bs with
        | nil => exact Nat.zero_le _
        | cons line lines =>
            rw [hlines] at ih
            simp only [List.length_cons] at ih ⊢
            omega

namespace AnthropicStream

variable {rt : Runtime} {t t' : AnthropicStream} {ws : List Bytes}

/-- The parser at each blank line of the text, while it only takes the fields in. -/
def completed (t : AnthropicStream) : List Bytes → List AnthropicStream
  | [] => []
  | raw :: lines =>
      if trimCR raw = [] then t :: t.reset.completed lines
      else (t.consumeLine (trimCR raw)).completed lines

/-- The payload decodes, where the event has a handler that decodes it. -/
def decodes (t : AnthropicStream) : Bool :=
  t.currentData == [] ||
    if t.currentEvent = bytesOf "message_start" then
      (unmarshal {} decodeMessageStart t.currentData).isSome
    else if t.currentEvent = bytesOf "content_block_delta" then
      (unmarshal {} decodeContentBlockDelta t.currentData).isSome
    else if t.currentEvent = bytesOf "message_delta" then
      (unmarshal "" decodeMessageDelta t.currentData).isSome
    else true

/-- The events that a chunk completes with what the translator holds. -/
def completedBy (t : AnthropicStream) (chunk : Bytes) : List AnthropicStream :=
  (t.feed chunk).completed (wholeLines (t.lineBuf ++ chunk))

/-- Those of them up to a payload that does not decode, which ends the call. -/
def reachedBy (t : AnthropicStream) (chunk : Bytes) : List AnthropicStream :=
  (t.completedBy chunk).takeWhile decodes

theorem completed_setBuf (t : AnthropicStream) (buf : Bytes) (lines : List Bytes) :
    (t.setBuf buf).completed lines = (t.completed lines).map fun u => u.setBuf buf := by
  induction lines generalizing t with
  | nil => rfl
  | cons raw lines ih =>
      by_cases hblank : trimCR raw = []
      · have hreset : (t.setBuf buf).reset = t.reset.setBuf buf := rfl
        simp only [completed, hblank, if_true, hreset, ih, List.map_cons]
      · simp only [completed, hblank, if_false, consumeLine_setBuf, ih]

/-- What `dispatch` does: it fails, or does nothing, or writes one chunk. -/
theorem dispatch_cases (rt : Runtime) (t : AnthropicStream) :
    (t.decodes = false ∧ ∃ err, t.dispatch rt = ([], .error err)) ∨
      (t.decodes = true ∧ t.dispatch rt = ([], .ok t)) ∨
      (t.decodes = true ∧ ∃ (u : AnthropicStream) (d : Delta),
        t.dispatch rt = (u.chunkWrites d.role d.content d.finishReason, .ok u)) := by
  by_cases hdata : t.currentData = []
  · exact .inr (.inl ⟨by simp [decodes, hdata], dispatch_of_empty (.inr hdata)⟩)
  -- The cases are those of `dispatch`, in its order.
  by_cases hstart : t.currentEvent = bytesOf "message_start"
  · rw [dispatch_messageStart hdata hstart, handleMessageStart]
    cases hread : unmarshal {} decodeMessageStart t.currentData with
    | none => exact .inl ⟨by simp [decodes, hdata, hstart, hread], _, rfl⟩
    | some ev =>
        refine .inr (.inr ⟨by simp [decodes, hstart, hread], _, ⟨"assistant", "", ""⟩, rfl⟩)
  by_cases hblock : t.currentEvent = bytesOf "content_block_delta"
  · rw [dispatch_contentBlockDelta hdata hblock, handleContentBlockDelta]
    cases hread : unmarshal {} decodeContentBlockDelta t.currentData with
    | none =>
        exact .inl
          ⟨by simp [decodes, hdata, hblock, hread, event_names_distinct.1], _, rfl⟩
    | some ev =>
        have hdecodes : t.decodes = true := by
          simp [decodes, hblock, hread, event_names_distinct.1]
        by_cases htext : ev.type ≠ "text_delta" ∨ ev.text = ""
        · exact .inr (.inl ⟨hdecodes, if_pos htext⟩)
        · exact .inr (.inr ⟨hdecodes, t, ⟨"", ev.text, ""⟩, if_neg htext⟩)
  by_cases hend : t.currentEvent = bytesOf "message_delta"
  · rw [dispatch_messageDelta hdata hend, handleMessageDelta]
    cases hread : unmarshal "" decodeMessageDelta t.currentData with
    | none =>
        exact .inl
          ⟨by simp [decodes, hdata, hend, hread, event_names_distinct.2.1,
            event_names_distinct.2.2], _, rfl⟩
    | some reason =>
        have hdecodes : t.decodes = true := by
          simp [decodes, hend, hread, event_names_distinct.2.1, event_names_distinct.2.2]
        by_cases hreason : reason = ""
        · exact .inr (.inl ⟨hdecodes, if_pos hreason⟩)
        · exact .inr (.inr
            ⟨hdecodes, t, ⟨"", "", mapAnthropicStopReason reason⟩, if_neg hreason⟩)
  have hdecodes : t.decodes = true := by
    simp [decodes, hstart, hblock, hend]
  by_cases hfailed : t.currentEvent = bytesOf "error"
  · refine .inr (.inr ⟨hdecodes, t, ⟨"", "", "error"⟩, ?_⟩)
    simp [dispatch, hdata, hfailed, error_name_distinct]
  · exact .inr (.inl ⟨hdecodes, dispatch_of_unhandled ⟨hstart, hblock, hend, hfailed⟩⟩)

theorem decodes_of_ok (h : t.dispatch rt = (ws, .ok t')) : t.decodes = true := by
  rcases dispatch_cases rt t with ⟨-, err, herr⟩ | ⟨hdecodes, -⟩ | ⟨hdecodes, -⟩
  · rw [herr] at h
    cases h
  · exact hdecodes
  · exact hdecodes

theorem decodes_of_error {err : GoError} (h : t.dispatch rt = (ws, .error err)) :
    t.decodes = false ∧ ws = [] := by
  rcases dispatch_cases rt t with ⟨hfails, err', herr⟩ | ⟨-, hdone⟩ | ⟨-, u, d, hwritten⟩
  · rw [herr] at h
    cases h
    exact ⟨hfails, rfl⟩
  · rw [hdone] at h
    cases h
  · rw [hwritten] at h
    cases h

/-- An event whose payload decodes is written exactly when it has an equivalent. -/
theorem dispatch_of_not_hasEquivalent (rt : Runtime) (hdecodes : t.decodes = true)
    (h : ¬ t.HasEquivalent) : t.dispatch rt = ([], .ok t) := by
  rcases dispatch_cases rt t with ⟨hfails, -⟩ | ⟨-, hdispatch⟩ | ⟨-, u, d, hdispatch⟩
  · rw [hdecodes] at hfails
    cases hfails
  · exact hdispatch
  · exact absurd ((flatten_of_dispatch hdispatch).2 h) (flatten_chunkWrites_ne_nil _ _ _ _)

theorem dispatch_of_hasEquivalent (rt : Runtime) (hdecodes : t.decodes = true)
    (h : t.HasEquivalent) :
    ∃ (u : AnthropicStream) (d : Delta),
      t.dispatch rt = (u.chunkWrites d.role d.content d.finishReason, .ok u) := by
  rcases dispatch_cases rt t with ⟨hfails, -⟩ | ⟨-, hdispatch⟩ | ⟨-, hwritten⟩
  · rw [hdecodes] at hfails
    cases hfails
  · exact absurd h ((flatten_of_dispatch hdispatch).1 rfl)
  · exact hwritten

/-! ## One call -/

/-- What holds of a parser that waits for more bytes, and is handed back through events and lines,
holds of the loop. -/
theorem translateLines_induct {motive : AnthropicStream → CallResult → Prop}
    (wait : ∀ t, takeLine t.lineBuf = none → motive t { writes := [], err := none, left := t })
    (fail : ∀ t raw rest err, takeLine t.lineBuf = some (raw, rest) → trimCR raw = [] →
      t.decodes = false → motive t { writes := [], err := some err, left := t.setBuf rest })
    (event : ∀ t raw rest ws t' more, takeLine t.lineBuf = some (raw, rest) → trimCR raw = [] →
      t.decodes = true → (t.setBuf rest).dispatch rt = (ws, .ok t') → motive t'.reset more →
        motive t { more with writes := ws ++ more.writes })
    (line : ∀ t raw rest r, takeLine t.lineBuf = some (raw, rest) → trimCR raw ≠ [] →
      motive ((t.setBuf rest).consumeLine (trimCR raw)) r → motive t r)
    {fuel : ℕ} (t : AnthropicStream) (hfuel : (wholeLines t.lineBuf).length ≤ fuel) :
    motive t (t.translateLinesKeeping rt fuel) := by
  induction fuel generalizing t with
  | zero =>
      cases hline : takeLine t.lineBuf with
      | none => exact wait t hline
      | some p =>
          rcases p with ⟨raw, rest⟩
          rw [wholeLines_of_some hline] at hfuel
          cases hfuel
  | succ fuel ih =>
      rw [translateLinesKeeping]
      cases hline : takeLine t.lineBuf with
      | none => exact wait t hline
      | some p =>
          rcases p with ⟨raw, rest⟩
          have hrest : (wholeLines rest).length ≤ fuel := by
            rw [wholeLines_of_some hline] at hfuel
            exact Nat.le_of_succ_le_succ hfuel
          by_cases hblank : trimCR raw = []
          · have hset : ({ t with lineBuf := rest } : AnthropicStream) = t.setBuf rest := rfl
            simp only [hblank, if_true, hset]
            cases hdispatch : (t.setBuf rest).dispatch rt with
            | mk ws r =>
                cases r with
                | error err =>
                    rcases decodes_of_error hdispatch with ⟨hfails, rfl⟩
                    exact fail t raw rest err hline hblank hfails
                | ok t' =>
                    have hdecodes : (t.setBuf rest).decodes = true := decodes_of_ok hdispatch
                    refine event t raw rest ws t' _ hline hblank hdecodes hdispatch (ih _ ?_)
                    rw [lineBuf_reset, lineBuf_of_dispatch hdispatch]
                    exact hrest
          · simp only [hblank, if_false]
            refine line t raw rest _ hline hblank (ih _ ?_)
            rw [lineBuf_consumeLine]
            exact hrest

/-- `Close` and nothing else closes. -/
theorem finished_translateKeeping (rt : Runtime) (t : AnthropicStream) (chunk : Bytes) :
    (t.translateKeeping rt chunk).left.finished = t.finished := by
  refine translateLines_induct (motive := fun t r => r.left.finished = t.finished)
    ?wait ?fail ?event ?line (t.feed chunk) (length_wholeLines_le _)
  case wait => exact fun t _ => rfl
  case fail => exact fun t raw rest err _ _ _ => rfl
  case event =>
    intro t raw rest ws t' more _ _ _ hdispatch ih
    have hkept : t'.finished = (t.setBuf rest).finished := finished_of_dispatch hdispatch
    exact ih.trans hkept
  case line =>
    intro t raw rest r _ _ ih
    exact ih.trans (finished_consumeLine _ _)

/-- All that is written are chunks. -/
theorem exists_written_translateKeeping (rt : Runtime) (t : AnthropicStream) (chunk : Bytes) :
    ∃ written : List (AnthropicStream × Delta), (t.translateKeeping rt chunk).writes =
      written.flatMap fun w => w.1.chunkWrites w.2.role w.2.content w.2.finishReason := by
  refine translateLines_induct
    (motive := fun _ r => ∃ written : List (AnthropicStream × Delta), r.writes =
      written.flatMap fun w => w.1.chunkWrites w.2.role w.2.content w.2.finishReason)
    ?wait ?fail ?event ?line (t.feed chunk) (length_wholeLines_le _)
  case wait => exact fun t _ => ⟨[], rfl⟩
  case fail => exact fun t raw rest err _ _ _ => ⟨[], rfl⟩
  case event =>
    intro t raw rest ws t' more _ _ _ hdispatch ih
    rcases ih with ⟨written, hwritten⟩
    rcases dispatch_cases rt (t.setBuf rest) with ⟨-, err, herr⟩ | ⟨-, hdone⟩ | ⟨-, u, d, hone⟩
    · rw [herr] at hdispatch
      cases hdispatch
    · rw [hdone] at hdispatch
      cases hdispatch
      exact ⟨written, hwritten⟩
    · rw [hone] at hdispatch
      cases hdispatch
      refine ⟨(t', d) :: written, ?_⟩
      rw [List.flatMap_cons, ← hwritten]
  case line => exact fun t raw rest r _ _ ih => ih

/-- The buffer is no matter to what the fields are. -/
theorem forall_completed_setBuf {P : AnthropicStream → Prop}
    (hP : ∀ u buf, P (u.setBuf buf) ↔ P u) (t : AnthropicStream) (buf : Bytes)
    (lines : List Bytes) :
    (∀ u ∈ (t.setBuf buf).completed lines, P u) ↔ ∀ u ∈ t.completed lines, P u := by
  rw [completed_setBuf, List.forall_mem_map]
  exact forall₂_congr fun u _ => hP u buf

theorem forall_reached_setBuf {P : AnthropicStream → Prop}
    (hP : ∀ u buf, P (u.setBuf buf) ↔ P u) (t : AnthropicStream) (buf : Bytes)
    (lines : List Bytes) :
    (∀ u ∈ ((t.setBuf buf).completed lines).takeWhile decodes, P u) ↔
      ∀ u ∈ (t.completed lines).takeWhile decodes, P u := by
  have hdecodes : (decodes ∘ fun u : AnthropicStream => u.setBuf buf) = decodes := rfl
  rw [completed_setBuf, List.takeWhile_map, hdecodes, List.forall_mem_map]
  exact forall₂_congr fun u _ => hP u buf

theorem completed_of_blank {raw rest : Bytes} (h : takeLine t.lineBuf = some (raw, rest))
    (hblank : trimCR raw = []) :
    t.completed (wholeLines t.lineBuf) = t :: t.reset.completed (wholeLines rest) := by
  rw [wholeLines_of_some h, completed, if_pos hblank]

theorem completed_of_line {raw rest : Bytes} (h : takeLine t.lineBuf = some (raw, rest))
    (hline : trimCR raw ≠ []) :
    t.completed (wholeLines t.lineBuf) =
      (t.consumeLine (trimCR raw)).completed (wholeLines rest) := by
  rw [wholeLines_of_some h, completed, if_neg hline]

/-- A call writes nothing exactly when no event that it reaches has an equivalent, and it returns no
error either exactly when, besides, every event that it completes decodes. -/
theorem translateKeeping_quiet (rt : Runtime) (t : AnthropicStream) (chunk : Bytes) :
    ((t.translateKeeping rt chunk).writes = [] ↔
        ∀ u ∈ t.reachedBy chunk, ¬ u.HasEquivalent) ∧
      ((t.translateKeeping rt chunk).writes = [] ∧ (t.translateKeeping rt chunk).err = none ↔
        ∀ u ∈ t.completedBy chunk, u.decodes = true ∧ ¬ u.HasEquivalent) := by
  refine translateLines_induct
    (motive := fun t r =>
      (r.writes = [] ↔
        ∀ u ∈ (t.completed (wholeLines t.lineBuf)).takeWhile decodes, ¬ u.HasEquivalent) ∧
      (r.writes = [] ∧ r.err = none ↔
        ∀ u ∈ t.completed (wholeLines t.lineBuf), u.decodes = true ∧ ¬ u.HasEquivalent))
    ?wait ?fail ?event ?line (t.feed chunk) (length_wholeLines_le _)
  case wait =>
    intro t hnone
    simp [wholeLines_of_none hnone, completed]
  case fail =>
    intro t raw rest err hline hblank hfails
    simp [completed_of_blank hline hblank, hfails]
  case event =>
    intro t raw rest ws t' more hline hblank hdecodes hdispatch ih
    rw [completed_of_blank hline hblank, List.takeWhile_cons_of_pos hdecodes,
      List.forall_mem_cons, List.forall_mem_cons]
    by_cases hevent : t.HasEquivalent
    · rcases dispatch_of_hasEquivalent rt (t := t.setBuf rest) hdecodes hevent with ⟨u, d, hone⟩
      rw [hone] at hdispatch
      cases hdispatch
      exact ⟨iff_of_false (by simp [chunkWrites]) fun h => h.1 hevent,
        iff_of_false (by simp [chunkWrites]) fun h => h.1.2 hevent⟩
    · -- The translator is as it was, so that the rest is read from where the fields say.
      rw [dispatch_of_not_hasEquivalent rt (t := t.setBuf rest) hdecodes hevent] at hdispatch
      cases hdispatch
      have hreached := forall_reached_setBuf (P := fun u => ¬ u.HasEquivalent)
        (fun _ _ => Iff.rfl) t.reset rest (wholeLines rest)
      have hcompleted := forall_completed_setBuf
        (P := fun u => u.decodes = true ∧ ¬ u.HasEquivalent)
        (fun _ _ => Iff.rfl) t.reset rest (wholeLines rest)
      exact ⟨(ih.1.trans hreached).trans ⟨fun h => ⟨hevent, h⟩, fun h => h.2⟩,
        (ih.2.trans hcompleted).trans ⟨fun h => ⟨⟨hdecodes, hevent⟩, h⟩, fun h => h.2⟩⟩
  case line =>
    intro t raw rest r hline hne ih
    rw [consumeLine_setBuf] at ih
    rw [completed_of_line hline hne]
    exact ⟨ih.1.trans (forall_reached_setBuf (fun _ _ => Iff.rfl) _ _ _),
      ih.2.trans (forall_completed_setBuf (fun _ _ => Iff.rfl) _ _ _)⟩

end AnthropicStream

/-! ## The end mark in the output -/

/-- The first line of the end mark. -/
def doneLine : Bytes :=
  bytesOf "data: [DONE]"

theorem endMark_eq : endMark = doneLine ++ 10 :: [10] := by
  decide +kernel

/-- The end mark has no brace in front of its line feeds. -/
theorem not_endMark_prefix_brace {bs : Bytes} (h : 10 ∉ bs) (rest : Bytes) :
    ¬ endMark <+: bs ++ 125 :: 10 :: rest := by
  intro hprefix
  have hdone : 10 ∉ doneLine := by decide +kernel
  have hbrace : 10 ∉ bs ++ [125] := by simp [h]
  have hsplit : bs ++ 125 :: 10 :: rest = (bs ++ [125]) ++ 10 :: rest := by simp
  rw [endMark_eq, hsplit] at hprefix
  -- The first lines would be the same, but one ends in a bracket and the other in a brace.
  have hlast := congrArg List.getLast? (eq_of_prefix_separator hdone hbrace hprefix)
  rw [List.getLast?_concat] at hlast
  exact absurd hlast (by decide +kernel)

theorem endMark_cons : ∃ bs, endMark = 100 :: bs ∧ 100 ∉ bs :=
  ⟨endMark.tail, by decide +kernel, by decide +kernel⟩

/-- No end mark begins in a line that ends in a brace, nor in the blank line behind it. -/
theorem occurrences_brace {bs : Bytes} (h : 10 ∉ bs) (rest : Bytes) :
    occurrences endMark (bs ++ 125 :: 10 :: 10 :: rest) = occurrences endMark rest := by
  induction bs with
  | nil =>
      rcases endMark_cons with ⟨mark, hmark, -⟩
      rw [hmark]
      exact occurrences_append_of_not_mem (l := [125, 10, 10]) (by decide) rest
  | cons b bs ih =>
      have hbs : 10 ∉ bs := fun hmem => h (List.mem_cons_of_mem b hmem)
      have hhead := not_endMark_prefix_brace h (10 :: rest)
      rw [List.cons_append] at hhead
      rw [List.cons_append, occurrences_of_not_prefix hhead, ih hbs]

theorem occurrences_endMark (rest : Bytes) :
    occurrences endMark (endMark ++ rest) = 1 + occurrences endMark rest := by
  rcases endMark_cons with ⟨mark, hmark, hfresh⟩
  rw [hmark]
  exact occurrences_self_append hfresh rest

theorem renderMembers_brace (ms : List (String × Json)) :
    ∃ cs, renderMembers ms = cs ++ ['\x7d'] := by
  induction ms with
  | nil => exact ⟨[], by rw [renderMembers, List.nil_append]⟩
  | cons m ms ih =>
      rcases m with ⟨k, v⟩
      cases ms with
      | nil => exact ⟨renderString k ++ ':' :: v.render, by simp [renderMembers]⟩
      | cons m' ms =>
          rcases ih with ⟨cs, hcs⟩
          exact ⟨renderString k ++ ':' :: (v.render ++ ',' :: cs), by simp [renderMembers, hcs]⟩

/-- A chunk is a line that ends in a brace, and a blank line. -/
theorem chunkFrame_brace (ms : List (String × Json)) :
    ∃ bs, 10 ∉ bs ∧ chunkFrame (.obj ms) = bs ++ [125, 10, 10] := by
  rcases renderMembers_brace ms with ⟨cs, hcs⟩
  have hrender : (Json.obj ms).render = ('\x7b' :: cs) ++ ['\x7d'] := by
    rw [Json.render, hcs]
    rfl
  have hprintable : Printable ('\x7b' :: cs) := by
    have hwhole := printable_render (.obj ms)
    rw [hrender] at hwhole
    exact (printable_append.1 hwhole).1
  have hstart : 10 ∉ bytesOf "data: " := by decide +kernel
  have hfeeds : bytesOf "\n\n" = [10, 10] := by decide +kernel
  have hbrace : encode ['\x7d'] = [125] := by decide +kernel
  refine ⟨bytesOf "data: " ++ encode ('\x7b' :: cs), ?_, ?_⟩
  · rw [List.mem_append, not_or]
    exact ⟨hstart, not_mem_encode_of_printable hprintable⟩
  · have hsplit : encode (('\x7b' :: cs) ++ ['\x7d']) = encode ('\x7b' :: cs) ++ [125] := by
      rw [← hbrace]
      exact List.flatMap_append
    rw [chunkFrame, marshal, hrender, hsplit, hfeeds]
    simp

/-- `Translate` writes no end mark. -/
theorem occurrences_translate (rt : Runtime) (t : AnthropicStream) (chunk rest : Bytes) :
    occurrences endMark ((t.translateKeeping rt chunk).writes.flatten ++ rest) =
      occurrences endMark rest := by
  rcases t.exists_written_translateKeeping rt chunk with ⟨written, hwritten⟩
  rw [hwritten]
  clear hwritten
  -- Chunk by chunk: no mark begins in the frame of one.
  induction written with
  | nil => rfl
  | cons w written ih =>
      rcases chunkFrame_brace _ with ⟨bs, hclean, hframe⟩
      rw [List.flatMap_cons, List.flatten_append, AnthropicStream.flatten_chunkWrites,
        AnthropicStream.chunkTree, hframe, List.append_assoc, List.append_assoc]
      exact (occurrences_brace hclean _).trans ih

/-! ## Runs -/

/-- A translator is closed behind a `Close`. -/
theorem finished_stateAfter (t : AnthropicStream) (calls : List StreamCall) :
    (stateAfter t calls).finished = true ↔ t.finished = true ∨ StreamCall.close ∈ calls := by
  induction calls generalizing t with
  | nil => simp [stateAfter]
  | cons c calls ih =>
      have hrest : (stateAfter t (c :: calls)).finished = true ↔
          (c.run t).left.finished = true ∨ StreamCall.close ∈ calls := ih (c.run t).left
      cases c with
      | translate rt chunk =>
          rw [hrest, StreamCall.run, t.finished_translateKeeping rt chunk]
          simp
      | close =>
          -- It sets the flag, or finds it set.
          have hclosed : (StreamCall.close.run t).left.finished = true := by
            cases hfinished : t.finished <;> simp [StreamCall.run, hfinished]
          exact iff_of_true (hrest.2 (.inl hclosed)) (.inr List.mem_cons_self)

/-- A closed translator writes no end mark. -/
theorem occurrences_of_closed {t : AnthropicStream} (h : t.finished = true)
    (calls : List StreamCall) :
    occurrences endMark (writesOf t calls).flatten = 0 := by
  induction calls generalizing t with
  | nil => rfl
  | cons c calls ih =>
      rw [writesOf, List.flatten_append]
      cases c with
      | translate rt chunk =>
          have hleft := t.finished_translateKeeping rt chunk
          exact (occurrences_translate rt t chunk _).trans (ih (hleft.trans h))
      | close =>
          have hnoop : StreamCall.close.run t = { writes := [], err := none, left := t } := if_pos h
          rw [hnoop]
          exact ih h

/-- An open one writes it once it is closed. -/
theorem occurrences_of_open {t : AnthropicStream} (h : t.finished = false)
    (calls : List StreamCall) :
    (StreamCall.close ∈ calls → occurrences endMark (writesOf t calls).flatten = 1) ∧
      (StreamCall.close ∉ calls → occurrences endMark (writesOf t calls).flatten = 0) := by
  induction calls generalizing t with
  | nil => exact ⟨nofun, fun _ => rfl⟩
  | cons c calls ih =>
      rw [writesOf, List.flatten_append]
      cases c with
      | translate rt chunk =>
          have hleft := t.finished_translateKeeping rt chunk
          have hrest := ih (hleft.trans h)
          rw [StreamCall.run, occurrences_translate]
          simpa using hrest
      | close =>
          have hclose : StreamCall.close.run t =
              { writes := [endMark], err := none, left := { t with finished := true } } :=
            if_neg (by simp [h])
          rw [hclose]
          refine ⟨fun _ => ?_, fun hno => absurd List.mem_cons_self hno⟩
          -- From here on the translator is closed, whatever is called.
          have hnone := occurrences_of_closed (t := { t with finished := true }) rfl calls
          have hflat : [endMark].flatten = endMark := List.flatten_singleton
          rw [hflat, occurrences_endMark, hnone]

/-! ## When a closed translator is silent -/

/-- The output has the end mark once if there is a `Close`, and never otherwise, and no call behind
the first `Close` writes anything. -/
structure ClosedForGood (calls : List StreamCall) : Prop where
  marked : StreamCall.close ∈ calls → occurrences endMark (output calls) = 1
  unmarked : StreamCall.close ∉ calls → occurrences endMark (output calls) = 0
  silent : ∀ before c after, calls = before ++ c :: after → StreamCall.close ∈ before →
    (c.run (stateAfter {} before)).writes = []

/-- No call behind the first `Close` returns an error. -/
def NoErrorOnceClosed (calls : List StreamCall) : Prop :=
  ∀ before c after, calls = before ++ c :: after → StreamCall.close ∈ before →
    (c.run (stateAfter {} before)).err = none

/-- No `Translate` behind the first `Close` reaches an event with an OpenAI equivalent. -/
def ReachesNothing (calls : List StreamCall) : Prop :=
  ∀ before rt chunk after, calls = before ++ StreamCall.translate rt chunk :: after →
    StreamCall.close ∈ before → ∀ u ∈ (stateAfter {} before).reachedBy chunk, ¬ u.HasEquivalent

/-- It completes none, and none whose payload does not decode. -/
def CompletesNothing (calls : List StreamCall) : Prop :=
  ∀ before rt chunk after, calls = before ++ StreamCall.translate rt chunk :: after →
    StreamCall.close ∈ before →
      ∀ u ∈ (stateAfter {} before).completedBy chunk, u.decodes = true ∧ ¬ u.HasEquivalent

theorem run_close_of_closed {before : List StreamCall} (h : StreamCall.close ∈ before) :
    StreamCall.close.run (stateAfter {} before) =
      { writes := [], err := none, left := stateAfter {} before } :=
  if_pos ((finished_stateAfter {} before).2 (.inr h))

theorem closedForGood_iff_silent {calls : List StreamCall} :
    ClosedForGood calls ↔
      ∀ before c after, calls = before ++ c :: after → StreamCall.close ∈ before →
        (c.run (stateAfter {} before)).writes = [] := by
  have honce := occurrences_of_open (t := {}) rfl calls
  exact ⟨ClosedForGood.silent, fun h => { marked := honce.1, unmarked := honce.2, silent := h }⟩

/-- For every order of the calls: a closed translator is silent exactly when no event with an OpenAI
equivalent is reached behind the first `Close`, and it does nothing at all exactly when, besides,
every event that is completed there decodes. -/
theorem closed_for_good_iff (calls : List StreamCall) :
    (ClosedForGood calls ↔ ReachesNothing calls) ∧
      (ClosedForGood calls ∧ NoErrorOnceClosed calls ↔ CompletesNothing calls) := by
  rw [closedForGood_iff_silent]
  refine ⟨⟨?_, ?_⟩, ⟨?_, ?_⟩⟩
  · intro h before rt chunk after hcalls hclosed
    exact ((stateAfter {} before).translateKeeping_quiet rt chunk).1.1
      (h before _ after hcalls hclosed)
  · intro h before c after hcalls hclosed
    -- A second `Close` finds the flag set; only `Translate` depends on the condition.
    cases c with
    | translate rt chunk =>
        exact ((stateAfter {} before).translateKeeping_quiet rt chunk).1.2
          (h before rt chunk after hcalls hclosed)
    | close => rw [run_close_of_closed hclosed]
  · rintro ⟨hsilent, herr⟩ before rt chunk after hcalls hclosed
    exact ((stateAfter {} before).translateKeeping_quiet rt chunk).2.1
      ⟨hsilent before _ after hcalls hclosed, herr before _ after hcalls hclosed⟩
  · intro h
    have hnoop : ∀ before c after, calls = before ++ c :: after → StreamCall.close ∈ before →
        (c.run (stateAfter {} before)).writes = [] ∧
          (c.run (stateAfter {} before)).err = none := by
      intro before c after hcalls hclosed
      cases c with
      | translate rt chunk =>
          exact ((stateAfter {} before).translateKeeping_quiet rt chunk).2.2
            (h before rt chunk after hcalls hclosed)
      | close =>
          rw [run_close_of_closed hclosed]
          exact ⟨rfl, rfl⟩
    exact ⟨fun before c after hcalls hclosed => (hnoop before c after hcalls hclosed).1,
      fun before c after hcalls hclosed => (hnoop before c after hcalls hclosed).2⟩

/-! ## An event that is completed late -/

/-- Its last blank line is cut off. -/
def openDelta : Bytes :=
  bytesOf "event: content_block_delta\ndata: " ++
    marshal (.obj [("delta", .obj [("type", .str "text_delta"), ("text", .str "hi")])]) ++
    bytesOf "\n"

/-- The blank line comes behind `Close`, and the text is written behind the end mark. -/
theorem translate_writes_once_closed :
    ¬ ClosedForGood
      [.translate plainRuntime openDelta, .close, .translate plainRuntime (bytesOf "\n")] := by
  intro h
  have hsilent := h.silent [.translate plainRuntime openDelta, .close]
    (.translate plainRuntime (bytesOf "\n")) [] rfl (by simp)
  have hthree : ((StreamCall.translate plainRuntime (bytesOf "\n")).run
      (stateAfter {} [.translate plainRuntime openDelta, .close])).writes.length = 3 := by
    decide +kernel
  rw [hsilent] at hthree
  cases hthree

end Gateway
end OpenRouter
