import OpenRouter.Base.Json
import OpenRouter.Base.TextDecoder

/-!
# SseChunks — the event stream as the CLI reads it

`parseSseChunks` of `api-client.ts`: the body's pieces are decoded into a buffer, and every event
that a blank line ends is taken out of it.  What is read does not depend on the pieces
(`parseSseChunks_eq`).
-/

namespace OpenRouter
namespace Cli

open Base

/-! ## Events -/

/-- `s.indexOf(pat)`. -/
def indexOf (pat : List Char) : List Char → Option ℕ
  | [] => if pat.isPrefixOf [] then some 0 else none
  | c :: cs => if pat.isPrefixOf (c :: cs) then some 0 else (indexOf pat cs).map (· + 1)

/-- The smaller of two indices, where one of them is found. -/
def earlier : Option ℕ → Option ℕ → Option ℕ
  | none, b => b
  | a, none => a
  | some a, some b => some (min a b)

def indexOfEventBoundary (s : List Char) : Option ℕ :=
  earlier (indexOf ['\n', '\n'] s) (indexOf ['\r', '\n', '\r', '\n'] s)

/-- `s.replace(/^(\r?\n){2}|^\r{2}/, '')`. -/
def stripBoundary : List Char → List Char
  | '\n' :: '\n' :: cs => cs
  | '\n' :: '\r' :: '\n' :: cs => cs
  | '\r' :: '\n' :: '\n' :: cs => cs
  | '\r' :: '\n' :: '\r' :: '\n' :: cs => cs
  | '\r' :: '\r' :: cs => cs
  | cs => cs

/-- `s.split(/\r?\n/)`. -/
def splitLines : List Char → List (List Char)
  | [] => [[]]
  | '\r' :: '\n' :: cs => [] :: splitLines cs
  | '\n' :: cs => [] :: splitLines cs
  | c :: cs =>
      match splitLines cs with
      | line :: lines => (c :: line) :: lines
      | [] => [[c]]

/-- `s.replace(/^ /, '')`. -/
def stripSpace : List Char → List Char
  | ' ' :: cs => cs
  | cs => cs

/-- What a `data:` line holds. -/
def dataOfLine (line : List Char) : Option (List Char) :=
  if "data:".toList.isPrefixOf line then some (stripSpace (line.drop 5)) else none

def extractDataPayload (event : List Char) : Option (List Char) :=
  let data := (splitLines event).filterMap dataOfLine
  if data.isEmpty then none else some (List.intercalate ['\n'] data)

/-- The event before the first boundary, and the buffer behind it. -/
def takeEvent (buffer : List Char) : Option (List Char × List Char) :=
  (indexOfEventBoundary buffer).map fun i => (buffer.take i, stripBoundary (buffer.drop i))

/-- A boundary begins here. -/
def atBoundary (s : List Char) : Bool :=
  ['\n', '\n'].isPrefixOf s || ['\r', '\n', '\r', '\n'].isPrefixOf s

theorem indexOfEventBoundary_cons (c : Char) (cs : List Char) :
    indexOfEventBoundary (c :: cs) =
      if atBoundary (c :: cs) then some 0 else (indexOfEventBoundary cs).map (· + 1) := by
  have hshift : ∀ a b : Option ℕ,
      earlier (a.map (· + 1)) (b.map (· + 1)) = (earlier a b).map (· + 1) := by
    rintro (- | a) (- | b) <;> simp [earlier, Nat.add_min_add_right]
  have hzero : ∀ a : Option ℕ, earlier (some 0) a = some 0 ∧ earlier a (some 0) = some 0 := by
    rintro (- | a) <;> simp [earlier]
  simp only [indexOfEventBoundary, indexOf, atBoundary]
  by_cases hlf : ['\n', '\n'].isPrefixOf (c :: cs) = true
  · simp only [hlf, if_true, hzero, Bool.true_or]
  · by_cases hcrlf : ['\r', '\n', '\r', '\n'].isPrefixOf (c :: cs) = true
    · simp only [hcrlf, if_true, hzero, Bool.or_true]
    · simp only [hlf, hcrlf, Bool.or_self, Bool.false_eq_true, if_false, hshift]

theorem takeEvent_nil : takeEvent [] = none := by
  rfl

/-- The boundary is looked for character by character. -/
theorem takeEvent_cons (c : Char) (cs : List Char) :
    takeEvent (c :: cs) =
      if atBoundary (c :: cs) then some ([], stripBoundary (c :: cs))
      else (takeEvent cs).map fun p => (c :: p.1, p.2) := by
  rw [takeEvent, indexOfEventBoundary_cons]
  split
  · rfl
  · rw [takeEvent, Option.map_map, Option.map_map]
    rfl

/-- What a boundary is. -/
theorem atBoundary_iff {s : List Char} :
    atBoundary s = true ↔
      (∃ t, s = '\n' :: '\n' :: t) ∨ ∃ t, s = '\r' :: '\n' :: '\r' :: '\n' :: t := by
  rw [atBoundary, Bool.or_eq_true, List.isPrefixOf_iff_prefix, List.isPrefixOf_iff_prefix]
  exact or_congr (exists_congr fun _ => eq_comm) (exists_congr fun _ => eq_comm)

theorem length_stripBoundary_lt {s : List Char} (h : atBoundary s = true) :
    (stripBoundary s).length < s.length := by
  rcases atBoundary_iff.1 h with ⟨t, rfl⟩ | ⟨t, rfl⟩
  · simp only [stripBoundary, List.length_cons]
    omega
  · simp only [stripBoundary, List.length_cons]
    omega

theorem length_lt_of_takeEvent {buffer event rest : List Char}
    (h : takeEvent buffer = some (event, rest)) : rest.length < buffer.length := by
  induction buffer generalizing event with
  | nil => cases h
  | cons c cs ih =>
      rw [takeEvent_cons] at h
      split at h
      · rename_i hat
        cases h
        exact length_stripBoundary_lt hat
      · rcases Option.map_eq_some_iff.1 h with ⟨⟨event', rest'⟩, htake, heq⟩
        cases heq
        exact (ih htake).trans (Nat.lt_succ_self _)

/-! ## The parser -/

/-- The inner loop: what it yields, and the buffer it leaves; `none` when it has returned at
`[DONE]`. -/
def drain (buffer : List Char) : List Json × Option (List Char) :=
  match _h : takeEvent buffer with
  | none => ([], some buffer)
  | some (event, rest) =>
      match extractDataPayload event with
      | none => drain rest
      | some data =>
          if data = "[DONE]".toList then ([], none)
          else
            let more := drain rest
            -- A payload that does not parse is skipped.
            ((parse data).toList ++ more.1, more.2)
termination_by buffer.length
decreasing_by
  all_goals exact length_lt_of_takeEvent _h

/-- White space and line terminators of `trim`. -/
def isTrimmed (c : Char) : Bool :=
  (9 ≤ c.toNat && c.toNat ≤ 13) || c.toNat == 0x20 || c.toNat == 0xA0 || c.toNat == 0x1680 ||
    (0x2000 ≤ c.toNat && c.toNat ≤ 0x200A) || c.toNat == 0x2028 || c.toNat == 0x2029 ||
    c.toNat == 0x202F || c.toNat == 0x205F || c.toNat == 0x3000 || c.toNat == 0xFEFF

/-- The event that the body leaves without a blank line behind it. -/
def flushTrailing (buffer : List Char) : List Json :=
  if buffer.all isTrimmed then []
  else
    match extractDataPayload buffer with
    | none => []
    | some data => if data = "[DONE]".toList then [] else (parse data).toList

/-- A piece of the body. -/
inductive Piece
  | text (s : List Char)
  | bytes (bs : Bytes)

/-- What a call has yielded, and whether it returned at `[DONE]` or at the end of the body. -/
structure Parsed where
  chunks : List Json
  done : Bool

/-- The text of a piece. -/
def Piece.decode (d : TextDecoder) : Piece → List Char × TextDecoder
  | .text s => (s, d)
  | .bytes bs => d.decode bs

/-- The loop over the body. -/
def readPieces (d : TextDecoder) (buffer : List Char) : List Piece → Parsed
  | [] => { chunks := flushTrailing buffer, done := false }
  | p :: ps =>
      match drain (buffer ++ (p.decode d).1) with
      | (chunks, none) => { chunks := chunks, done := true }
      | (chunks, some rest) =>
          let more := readPieces (p.decode d).2 rest ps
          { chunks := chunks ++ more.chunks, done := more.done }

def parseSseChunks (body : List Piece) : Parsed :=
  readPieces {} [] body

/-! ## Cuts -/

/-- A boundary at the head that more text completes leaves no boundary behind it before. -/
theorem takeEvent_eq_none_of_completed {c : Char} {cs more : List Char}
    (h : atBoundary (c :: cs) = false) (hmore : atBoundary (c :: (cs ++ more)) = true) :
    takeEvent cs = none := by
  rcases atBoundary_iff.1 hmore with ⟨t, ht⟩ | ⟨t, ht⟩
  · rcases cs with - | ⟨a, cs⟩
    · rfl
    · simp only [List.cons_append, List.cons.injEq] at ht
      rw [ht.1, ht.2.1] at h
      simp [atBoundary] at h
  · rcases cs with - | ⟨a, - | ⟨b, - | ⟨d, cs⟩⟩⟩
    · rfl
    · simp only [List.cons_append, List.cons.injEq] at ht
      rw [ht.2.1]
      rfl
    · simp only [List.cons_append, List.cons.injEq] at ht
      rw [ht.2.1, ht.2.2.1]
      rfl
    · simp only [List.cons_append, List.cons.injEq] at ht
      rw [ht.1, ht.2.1, ht.2.2.1, ht.2.2.2.1] at h
      simp [atBoundary] at h

/-- An event that is complete stays as it is when more text arrives. -/
theorem takeEvent_append {buffer event rest : List Char}
    (h : takeEvent buffer = some (event, rest)) (more : List Char) :
    takeEvent (buffer ++ more) = some (event, rest ++ more) := by
  induction buffer generalizing event with
  | nil => cases h
  | cons c cs ih =>
      rw [takeEvent_cons] at h
      rw [List.cons_append, takeEvent_cons]
      by_cases hat : atBoundary (c :: cs) = true
      · rw [if_pos hat] at h
        cases h
        rcases atBoundary_iff.1 hat with ⟨t, ht⟩ | ⟨t, ht⟩
        · cases ht
          rfl
        · cases ht
          rfl
      · rw [if_neg hat] at h
        rcases Option.map_eq_some_iff.1 h with ⟨⟨event', rest'⟩, htake, heq⟩
        cases heq
        have hat' : ¬ atBoundary (c :: (cs ++ more)) = true := by
          intro hcompleted
          rw [takeEvent_eq_none_of_completed (Bool.not_eq_true _ ▸ hat) hcompleted] at htake
          cases htake
        rw [if_neg hat', ih htake]
        rfl

theorem drain_of_none {buffer : List Char} (h : takeEvent buffer = none) :
    drain buffer = ([], some buffer) := by
  rw [drain]
  split
  · rfl
  · rename_i heq
    rw [h] at heq
    cases heq

theorem drain_of_some {buffer event rest : List Char}
    (h : takeEvent buffer = some (event, rest)) :
    drain buffer =
      match extractDataPayload event with
      | none => drain rest
      | some data =>
          if data = "[DONE]".toList then ([], none)
          else ((parse data).toList ++ (drain rest).1, (drain rest).2) := by
  rw [drain]
  split
  · rename_i heq
    rw [h] at heq
    cases heq
  · rename_i heq
    rw [h] at heq
    cases heq
    rfl

/-- The end mark. -/
def IsDone (event : List Char) : Prop :=
  extractDataPayload event = some "[DONE]".toList

/-- What is yielded for an event that is not the end mark. -/
def chunkOf (event : List Char) : Option Json :=
  (extractDataPayload event).bind parse

theorem drain_of_done {buffer event rest : List Char} (h : takeEvent buffer = some (event, rest))
    (hdone : IsDone event) : drain buffer = ([], none) := by
  rw [drain_of_some h, hdone]
  exact if_pos rfl

theorem drain_of_event {buffer event rest : List Char} (h : takeEvent buffer = some (event, rest))
    (hdone : ¬ IsDone event) :
    drain buffer = ((chunkOf event).toList ++ (drain rest).1, (drain rest).2) := by
  rw [drain_of_some h]
  cases hdata : extractDataPayload event with
  | none => simp [chunkOf, hdata]
  | some data =>
      have hne : data ≠ "[DONE]".toList := by
        rintro rfl
        exact hdone hdata
      simp only [chunkOf, hdata, if_neg hne, Option.bind_some]

/-- The induction of the inner loop: no event is complete, the end mark is taken, or another event
is taken and the loop goes on. -/
theorem drain_induct {motive : List Char → List Json × Option (List Char) → Prop}
    (wait : ∀ buffer, takeEvent buffer = none → motive buffer ([], some buffer))
    (done : ∀ buffer event rest, takeEvent buffer = some (event, rest) → IsDone event →
      motive buffer ([], none))
    (event : ∀ buffer event rest, takeEvent buffer = some (event, rest) → ¬ IsDone event →
      motive rest (drain rest) →
        motive buffer ((chunkOf event).toList ++ (drain rest).1, (drain rest).2))
    (buffer : List Char) : motive buffer (drain buffer) := by
  induction hn : buffer.length using Nat.strong_induction_on generalizing buffer with
  | _ n ih =>
      cases htake : takeEvent buffer with
      | none =>
          rw [drain_of_none htake]
          exact wait buffer htake
      | some p =>
          rcases p with ⟨first, rest⟩
          by_cases hdone : IsDone first
          · rw [drain_of_done htake hdone]
            exact done buffer first rest htake hdone
          · rw [drain_of_event htake hdone]
            have hlt : rest.length < n := hn ▸ length_lt_of_takeEvent htake
            exact event buffer first rest htake hdone (ih rest.length hlt rest rfl)

/-- Draining again once more text is there comes to draining the whole text. -/
theorem drain_append (buffer more : List Char) :
    drain (buffer ++ more) =
      match drain buffer with
      | (chunks, none) => (chunks, none)
      | (chunks, some rest) => (chunks ++ (drain (rest ++ more)).1, (drain (rest ++ more)).2) := by
  refine drain_induct
    (motive := fun buffer r => drain (buffer ++ more) =
      match r with
      | (chunks, none) => (chunks, none)
      | (chunks, some rest) => (chunks ++ (drain (rest ++ more)).1, (drain (rest ++ more)).2))
    ?wait ?done ?event buffer
  case wait =>
    intro buffer _
    simp only [List.nil_append]
  case done =>
    intro buffer event rest htake hdone
    exact drain_of_done (takeEvent_append htake more) hdone
  case event =>
    intro buffer event rest htake hdone ih
    rw [drain_of_event (takeEvent_append htake more) hdone, ih]
    rcases drain rest with ⟨chunks, - | left⟩
    · rfl
    · simp only [List.append_assoc]

/-- What the loop leaves in the buffer has no event in it. -/
theorem drain_rest {buffer rest : List Char} {chunks : List Json}
    (h : drain buffer = (chunks, some rest)) : drain rest = ([], some rest) := by
  revert chunks
  refine drain_induct
    (motive := fun _ r => ∀ {chunks}, r = (chunks, some rest) → drain rest = ([], some rest))
    ?wait ?done ?event buffer
  case wait =>
    intro buffer hnone chunks h
    cases h
    exact drain_of_none hnone
  case done =>
    intro buffer event left _ _ chunks h
    cases h
  case event =>
    intro buffer event left _ _ ih chunks h
    have hleft : (drain left).2 = some rest := congrArg Prod.snd h
    exact ih (Prod.ext rfl hleft)

/-- What a body comes to once it has been drained. -/
def finish : List Json × Option (List Char) → Parsed
  | (chunks, none) => { chunks := chunks, done := true }
  | (chunks, some rest) => { chunks := chunks ++ flushTrailing rest, done := false }

/-- The text of a body. -/
def bodyText (d : TextDecoder) : List Piece → List Char
  | [] => []
  | p :: ps => (p.decode d).1 ++ bodyText (p.decode d).2 ps

theorem readPieces_eq (ps : List Piece) (d : TextDecoder) {buffer : List Char}
    (hbuffer : drain buffer = ([], some buffer)) :
    readPieces d buffer ps = finish (drain (buffer ++ bodyText d ps)) := by
  induction ps generalizing d buffer with
  | nil => rw [bodyText, List.append_nil, hbuffer, readPieces, finish, List.nil_append]
  | cons p ps ih =>
      rw [readPieces, bodyText, ← List.append_assoc, drain_append (buffer ++ (p.decode d).1)]
      rcases hdrain : drain (buffer ++ (p.decode d).1) with ⟨chunks, - | rest⟩
      · rfl
      · simp only [ih _ (drain_rest hdrain)]
        rcases drain (rest ++ bodyText (p.decode d).2 ps) with ⟨chunks', - | rest'⟩
        · rfl
        · simp only [finish, List.append_assoc]

/-- What is read of a body depends on its text alone. -/
theorem parseSseChunks_eq (body : List Piece) :
    parseSseChunks body = finish (drain (bodyText {} body)) :=
  readPieces_eq body {} (drain_of_none takeEvent_nil)

/-- Pieces of bytes have the text of all of them. -/
theorem bodyText_bytes (d : TextDecoder) (pieces : List Bytes) :
    bodyText d (pieces.map Piece.bytes) = (d.decode pieces.flatten).1 := by
  induction pieces generalizing d with
  | nil => rfl
  | cons bs pieces ih =>
      rw [List.map_cons, bodyText, ih, List.flatten_cons, TextDecoder.decode_append]
      rfl

/-! ## The events of a body -/

theorem bodyText_text (d : TextDecoder) (pieces : List (List Char)) :
    bodyText d (pieces.map Piece.text) = pieces.flatten := by
  induction pieces generalizing d with
  | nil => rfl
  | cons s pieces ih =>
      rw [List.map_cons, bodyText, ih, List.flatten_cons]
      rfl

/-- The blank line that ends an event, with the line break in front of it. -/
def IsBoundary (s : List Char) : Prop :=
  s = ['\n', '\n'] ∨ s = ['\r', '\n', '\r', '\n']

/-- What is taken out of the buffer is an event and the first boundary. -/
theorem exists_of_takeEvent {buffer event rest : List Char}
    (h : takeEvent buffer = some (event, rest)) :
    ∃ ending, IsBoundary ending ∧ buffer = event ++ ending ++ rest ∧
      takeEvent (event ++ ending) = some (event, []) := by
  induction buffer generalizing event with
  | nil => cases h
  | cons c cs ih =>
      rw [takeEvent_cons] at h
      by_cases hat : atBoundary (c :: cs) = true
      · rw [if_pos hat] at h
        cases h
        rcases atBoundary_iff.1 hat with ⟨t, ht⟩ | ⟨t, ht⟩
        · exact ⟨['\n', '\n'], Or.inl rfl, by rw [ht]; rfl, rfl⟩
        · exact ⟨['\r', '\n', '\r', '\n'], Or.inr rfl, by rw [ht]; rfl, rfl⟩
      · rw [if_neg hat] at h
        rcases Option.map_eq_some_iff.1 h with ⟨⟨event', rest'⟩, htake, heq⟩
        cases heq
        rcases ih htake with ⟨ending, hending, rfl, hfirst⟩
        refine ⟨ending, hending, by simp, ?_⟩
        -- With less text behind it, the head begins no boundary either.
        have hat' : ¬ atBoundary (c :: (event' ++ ending)) = true := by
          intro hshort
          refine hat (atBoundary_iff.2 ?_)
          rcases atBoundary_iff.1 hshort with ⟨t, ht⟩ | ⟨t, ht⟩
          · exact Or.inl ⟨t ++ rest', by rw [← List.cons_append, ht]; rfl⟩
          · exact Or.inr ⟨t ++ rest', by rw [← List.cons_append, ht]; rfl⟩
        rw [List.cons_append, takeEvent_cons, if_neg hat', hfirst]
        rfl

/-- The text is a row of events, each with the first boundary behind it, and a rest. -/
structure CutInto (text : List Char) (events : List (List Char × List Char)) (rest : List Char) :
    Prop where
  whole : text = (events.flatMap fun e => e.1 ++ e.2) ++ rest
  ended : ∀ e ∈ events, IsBoundary e.2
  first : ∀ e ∈ events, takeEvent (e.1 ++ e.2) = some (e.1, [])

theorem CutInto.nil (rest : List Char) : CutInto rest [] rest where
  whole := rfl
  ended := by simp
  first := by simp

theorem CutInto.cons {text rest event ending : List Char} {events : List (List Char × List Char)}
    (h : CutInto text events rest) (hending : IsBoundary ending)
    (hfirst : takeEvent (event ++ ending) = some (event, [])) :
    CutInto (event ++ ending ++ text) ((event, ending) :: events) rest where
  whole := by
    rw [h.whole]
    simp
  ended := List.forall_mem_cons.2 ⟨hending, h.ended⟩
  first := List.forall_mem_cons.2 ⟨hfirst, h.first⟩

theorem toList_append_filterMap {α β : Type*} (f : α → Option β) (a : α) (as : List α) :
    (f a).toList ++ as.filterMap f = (a :: as).filterMap f := by
  cases h : f a with
  | none => simp [h]
  | some b => simp [h]

/-- The events of a text are the ones up to the end mark, or all of them. -/
theorem cutInto_of_drain (buffer : List Char) :
    ∃ events rest, CutInto buffer events rest ∧
      ((∃ before last, events = before ++ [last] ∧ IsDone last.1 ∧ (∀ e ∈ before, ¬ IsDone e.1) ∧
          drain buffer = (before.filterMap fun e => chunkOf e.1, none)) ∨
        ((∀ e ∈ events, ¬ IsDone e.1) ∧ takeEvent rest = none ∧
          drain buffer = (events.filterMap fun e => chunkOf e.1, some rest))) := by
  refine drain_induct
    (motive := fun buffer r => ∃ events rest, CutInto buffer events rest ∧
      ((∃ before last, events = before ++ [last] ∧ IsDone last.1 ∧ (∀ e ∈ before, ¬ IsDone e.1) ∧
          r = (before.filterMap fun e => chunkOf e.1, none)) ∨
        ((∀ e ∈ events, ¬ IsDone e.1) ∧ takeEvent rest = none ∧
          r = (events.filterMap fun e => chunkOf e.1, some rest))))
    ?wait ?done ?event buffer
  case wait => exact fun buffer hnone => ⟨[], buffer, .nil buffer, .inr ⟨by simp, hnone, rfl⟩⟩
  case done =>
    intro buffer event text htake hdone
    rcases exists_of_takeEvent htake with ⟨ending, hending, rfl, hfirst⟩
    exact ⟨[(event, ending)], text, (CutInto.nil text).cons hending hfirst,
      .inl ⟨[], (event, ending), rfl, hdone, by simp, rfl⟩⟩
  case event =>
    intro buffer event text htake hdone ih
    rcases exists_of_takeEvent htake with ⟨ending, hending, rfl, hfirst⟩
    rcases ih with ⟨events, rest, hcut, hread⟩
    refine ⟨(event, ending) :: events, rest, hcut.cons hending hfirst, ?_⟩
    -- An event that is not the end mark yields its chunk, and the reading goes on.
    have hcons := toList_append_filterMap (fun e : List Char × List Char => chunkOf e.1)
      (event, ending)
    rcases hread with ⟨before, last, rfl, hlast, hbefore, hdrain⟩ | ⟨hnone, hend, hdrain⟩
    · left
      refine ⟨(event, ending) :: before, last, rfl, hlast,
        List.forall_mem_cons.2 ⟨hdone, hbefore⟩, ?_⟩
      rw [hdrain, ← hcons]
    · right
      refine ⟨List.forall_mem_cons.2 ⟨hdone, hnone⟩, hend, ?_⟩
      rw [hdrain, ← hcons]

/-- Two cuts of a stream, into pieces of bytes or of text, are read alike.  The text is a row of
events up to the end mark, or up to a rest without a boundary, and what is yielded are the chunks of
these events in order, and of the rest at the end of the body. -/
theorem parseSseChunks_cut :
    (∀ pieces pieces' : List Bytes, pieces.flatten = pieces'.flatten →
        parseSseChunks (pieces.map .bytes) = parseSseChunks (pieces'.map .bytes)) ∧
      (∀ pieces pieces' : List (List Char), pieces.flatten = pieces'.flatten →
        parseSseChunks (pieces.map .text) = parseSseChunks (pieces'.map .text)) ∧
      ∀ body : List Piece, ∃ events rest, CutInto (bodyText {} body) events rest ∧
        ((∃ before last, events = before ++ [last] ∧ IsDone last.1 ∧
            (∀ e ∈ before, ¬ IsDone e.1) ∧
            parseSseChunks body =
              { chunks := before.filterMap fun e => chunkOf e.1, done := true }) ∨
          ((∀ e ∈ events, ¬ IsDone e.1) ∧ takeEvent rest = none ∧
            parseSseChunks body =
              { chunks := (events.filterMap fun e => chunkOf e.1) ++ flushTrailing rest
                done := false })) := by
  refine ⟨?_, ?_, ?_⟩
  · intro pieces pieces' hsame
    rw [parseSseChunks_eq, parseSseChunks_eq, bodyText_bytes, bodyText_bytes, hsame]
  · intro pieces pieces' hsame
    rw [parseSseChunks_eq, parseSseChunks_eq, bodyText_text, bodyText_text, hsame]
  · intro body
    rcases cutInto_of_drain (bodyText {} body) with ⟨events, rest, hcut, hread⟩
    refine ⟨events, rest, hcut, ?_⟩
    rw [parseSseChunks_eq]
    rcases hread with ⟨before, last, hevents, hlast, hbefore, hdrain⟩ | ⟨hnone, hend, hdrain⟩
    · exact Or.inl ⟨before, last, hevents, hlast, hbefore, by rw [hdrain, finish]⟩
    · exact Or.inr ⟨hnone, hend, by rw [hdrain, finish]⟩

/-! ## One line and a blank one -/

variable {line : List Char}

/-- No line break is in the text. -/
def OneLine (line : List Char) : Prop :=
  ∀ c ∈ line, c ≠ '\n' ∧ c ≠ '\r'

theorem oneLine_of_printable (h : Printable line) : OneLine line := by
  intro c hc
  have hprintable := h c hc
  constructor
  · rintro rfl
    exact absurd hprintable (by decide)
  · rintro rfl
    exact absurd hprintable (by decide)

theorem takeEvent_line (h : OneLine line) (rest : List Char) :
    takeEvent (line ++ '\n' :: '\n' :: rest) = some (line, rest) := by
  induction line with
  | nil =>
      rw [List.nil_append, takeEvent_cons]
      exact if_pos rfl
  | cons c cs ih =>
      have hc := h c List.mem_cons_self
      have hat : ¬ atBoundary (c :: (cs ++ '\n' :: '\n' :: rest)) = true := by
        rw [atBoundary_iff]
        rintro (⟨t, ht⟩ | ⟨t, ht⟩)
        · exact hc.1 (List.cons.inj ht).1
        · exact hc.2 (List.cons.inj ht).1
      rw [List.cons_append, takeEvent_cons, if_neg hat,
        ih fun c' hc' => h c' (List.mem_cons_of_mem c hc')]
      rfl

theorem splitLines_line (h : OneLine line) : splitLines line = [line] := by
  induction line with
  | nil => rfl
  | cons c cs ih =>
      have hc := h c List.mem_cons_self
      rw [splitLines, ih fun c' hc' => h c' (List.mem_cons_of_mem c hc')]
      · rintro t rfl
        exact absurd rfl hc.2
      · exact hc.1

theorem oneLine_data (h : OneLine line) : OneLine ("data: ".toList ++ line) := by
  have hfield : OneLine "data: ".toList := oneLine_of_printable (printable_of_all rfl)
  exact List.forall_mem_append.2 ⟨hfield, h⟩

/-- The text behind `data: ` is the payload, whatever it looks like. -/
theorem extractDataPayload_line (h : OneLine line) :
    extractDataPayload ("data: ".toList ++ line) = some line := by
  have hdata : dataOfLine ("data: ".toList ++ line) = some line := by
    rfl
  have hall : ["data: ".toList ++ line].filterMap dataOfLine = [line] := by
    rw [List.filterMap_cons_some hdata]
    rfl
  simp only [extractDataPayload, splitLines_line (oneLine_data h), hall]
  exact congrArg some (List.append_nil line)

theorem drain_line (h : OneLine line) (rest : List Char) :
    drain ("data: ".toList ++ line ++ '\n' :: '\n' :: rest) =
      if line = "[DONE]".toList then ([], none)
      else ((parse line).toList ++ (drain rest).1, (drain rest).2) := by
  rw [drain_of_some (takeEvent_line (oneLine_data h) rest), extractDataPayload_line h]

end Cli
end OpenRouter
