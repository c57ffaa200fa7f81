import OpenRouter.Cli.SseChunks

/-!
# LineEndings — an event stream in each of its spellings

The lines of an event stream may end in LF, CRLF or CR.  `parseSseChunks` looks for two kinds of
blank lines and splits an event at LF and CRLF, so that it depends on the endings whether a stream
is read as with LF everywhere: `readAlike_iff_tolerated`.
-/

namespace OpenRouter
namespace Cli

open Base

/-! ## Streams -/

inductive Ending
  | lf
  | crlf
  | cr
  deriving DecidableEq

def Ending.text : Ending → List Char
  | lf => ['\n']
  | crlf => ['\r', '\n']
  | cr => ['\r']

/-- A line of an event: a field or a comment. -/
structure Line where
  text : List Char
  nonempty : text ≠ []
  oneLine : OneLine text

/-- An event: its lines with the ending of each, and the ending of the blank line behind them. -/
structure SseEvent where
  init : List (Line × Ending)
  last : Line × Ending
  blank : Ending

/-- Lines with their endings. -/
def linesText (lines : List (Line × Ending)) : List Char :=
  lines.flatMap fun l => l.1.text ++ l.2.text

namespace SseEvent

/-- The lines as they are sent, without the ending of the last. -/
def body (e : SseEvent) : List Char :=
  linesText e.init ++ e.last.1.text

def text (e : SseEvent) : List Char :=
  e.body ++ (e.last.2.text ++ e.blank.text)

/-- The event with LF everywhere. -/
def plain (e : SseEvent) : SseEvent where
  init := e.init.map fun l => (l.1, .lf)
  last := (e.last.1, .lf)
  blank := .lf

/-- The endings of the event. -/
def layout (e : SseEvent) : List Ending × Ending × Ending :=
  (e.init.map Prod.snd, e.last.2, e.blank)

/-- No line ends in CR, and the blank line ends as the line before it. -/
def Tolerated (e : SseEvent) : Prop :=
  (∀ l ∈ e.init, l.2 ≠ .cr) ∧ e.last.2 ≠ .cr ∧ e.blank = e.last.2

/-- What the lines carry, whatever their endings. -/
def payload (e : SseEvent) : Option (List Char) :=
  let data := ((e.init ++ [e.last]).map fun l => l.1.text).filterMap dataOfLine
  if data.isEmpty then none else some (List.intercalate ['\n'] data)

end SseEvent

def streamText (events : List SseEvent) : List Char :=
  events.flatMap SseEvent.text

/-- However the stream and its LF spelling are cut, they are read alike. -/
def ReadAlike (events : List SseEvent) : Prop :=
  ∀ body body', bodyText {} body = streamText events →
    bodyText {} body' = streamText (events.map SseEvent.plain) →
      parseSseChunks body = parseSseChunks body'

theorem readAlike_iff {events : List SseEvent} :
    ReadAlike events ↔
      finish (drain (streamText events)) =
        finish (drain (streamText (events.map SseEvent.plain))) := by
  constructor
  · intro h
    have hcut : ∀ s : List Char, bodyText {} [.text s] = s := fun s => List.append_nil s
    have hsame := h [.text _] [.text _] (hcut _) (hcut _)
    rwa [parseSseChunks_eq, parseSseChunks_eq, hcut, hcut] at hsame
  · intro h body body' hbody hbody'
    rw [parseSseChunks_eq, parseSseChunks_eq, hbody, hbody', h]

/-! ## Lines -/

/-- The text does not go on with a line break. -/
def NoBreak (s : List Char) : Prop :=
  ∀ c, s.head? = some c → c ≠ '\n' ∧ c ≠ '\r'

theorem Line.noBreak (l : Line) (s : List Char) : NoBreak (l.text ++ s) := by
  intro c hc
  cases htext : l.text with
  | nil => exact absurd htext l.nonempty
  | cons d ds =>
      rw [htext, List.cons_append, List.head?_cons, Option.some.injEq] at hc
      exact hc ▸ l.oneLine d (by simp [htext])

theorem noBreak_linesText (lines : List (Line × Ending)) {s : List Char} (hs : NoBreak s) :
    NoBreak (linesText lines ++ s) := by
  cases lines with
  | nil => exact hs
  | cons l lines =>
      rw [linesText, List.flatMap_cons, List.append_assoc, List.append_assoc]
      exact l.1.noBreak _

/-- A line of text is passed over. -/
theorem takeEvent_oneLine {line : List Char} (h : OneLine line) (s : List Char) :
    takeEvent (line ++ s) = (takeEvent s).map fun p => (line ++ p.1, p.2) := by
  induction line with
  | nil =>
      simp
  | cons c cs ih =>
      have hc := h c List.mem_cons_self
      have hat : ¬ atBoundary (c :: (cs ++ s)) = true := by
        rw [atBoundary_iff]
        rintro (⟨t, ht⟩ | ⟨t, ht⟩)
        · exact hc.1 (List.cons.inj ht).1
        · exact hc.2 (List.cons.inj ht).1
      rw [List.cons_append, takeEvent_cons, if_neg hat,
        ih fun c' hc' => h c' (List.mem_cons_of_mem c hc'), Option.map_map]
      rfl

/-- An ending with a line behind it is passed over. -/
theorem takeEvent_ending {s : List Char} (hs : NoBreak s) (e : Ending) :
    takeEvent (e.text ++ s) = (takeEvent s).map fun p => (e.text ++ p.1, p.2) := by
  have hlf : ∀ t, ¬ s = '\n' :: t := by
    rintro t rfl
    exact (hs '\n' rfl).1 rfl
  have hfeed : takeEvent ('\n' :: s) = (takeEvent s).map fun p => ('\n' :: p.1, p.2) := by
    have hat : ¬ atBoundary ('\n' :: s) = true := by
      rw [atBoundary_iff]
      rintro (⟨t, ht⟩ | ⟨t, ht⟩)
      · exact hlf t (List.cons.inj ht).2
      · cases (List.cons.inj ht).1
    rw [takeEvent_cons, if_neg hat]
  -- A boundary takes two line ends, and behind this one a line begins.
  cases e with
  | lf => exact hfeed
  | crlf =>
      have hat : ¬ atBoundary ('\r' :: '\n' :: s) = true := by
        rw [atBoundary_iff]
        rintro (⟨t, ht⟩ | ⟨t, ht⟩)
        · cases (List.cons.inj ht).1
        · simp only [List.cons.injEq, true_and] at ht
          exact (hs '\r' (by rw [ht]; rfl)).2 rfl
      show takeEvent ('\r' :: '\n' :: s) = _
      rw [takeEvent_cons, if_neg hat, hfeed, Option.map_map]
      rfl
  | cr =>
      have hat : ¬ atBoundary ('\r' :: s) = true := by
        rw [atBoundary_iff]
        rintro (⟨t, ht⟩ | ⟨t, ht⟩)
        · cases (List.cons.inj ht).1
        · exact hlf _ (List.cons.inj ht).2
      show takeEvent ('\r' :: s) = _
      rw [takeEvent_cons, if_neg hat]
      rfl

/-- Lines with another line behind them are passed over. -/
theorem takeEvent_lines (lines : List (Line × Ending)) {s : List Char} (hs : NoBreak s) :
    takeEvent (linesText lines ++ s) =
      (takeEvent s).map fun p => (linesText lines ++ p.1, p.2) := by
  induction lines with
  | nil =>
      simp [linesText]
  | cons l lines ih =>
      rw [linesText, List.flatMap_cons, List.append_assoc, List.append_assoc,
        takeEvent_oneLine l.1.oneLine, ← linesText, takeEvent_ending (noBreak_linesText lines hs),
        ih, Option.map_map, Option.map_map]
      congr 1
      funext p
      simp

theorem splitLines_ne_nil (s : List Char) : splitLines s ≠ [] := by
  fun_induction splitLines s <;> simp

/-- A line of text belongs to the first line of what it stands in front of. -/
theorem splitLines_oneLine {line : List Char} (h : OneLine line) {s first : List Char}
    {more : List (List Char)} (hs : splitLines s = first :: more) :
    splitLines (line ++ s) = (line ++ first) :: more := by
  induction line with
  | nil => exact hs
  | cons c cs ih =>
      have hc := h c List.mem_cons_self
      have hrest := ih fun c' hc' => h c' (List.mem_cons_of_mem c hc')
      rw [List.cons_append, splitLines, hrest]
      · rfl
      -- Neither of the two ways to end a line is met inside of one.
      · rintro t rfl
        exact absurd rfl hc.2
      · exact hc.1

theorem splitLines_ending {e : Ending} (he : e ≠ .cr) (s : List Char) :
    splitLines (e.text ++ s) = [] :: splitLines s := by
  cases e with
  | lf => rw [Ending.text, List.singleton_append, splitLines]
  | crlf => rw [Ending.text, List.cons_append, List.singleton_append, splitLines]
  | cr => exact absurd rfl he

/-- Lines that do not end in CR are split off one by one. -/
theorem splitLines_lines {lines : List (Line × Ending)} (h : ∀ l ∈ lines, l.2 ≠ .cr)
    (s : List Char) :
    splitLines (linesText lines ++ s) = lines.map (fun l => l.1.text) ++ splitLines s := by
  induction lines with
  | nil => rfl
  | cons l lines ih =>
      have hl : l.2 ≠ .cr := h l List.mem_cons_self
      have hrest := ih fun l' hl' => h l' (List.mem_cons_of_mem l hl')
      rw [linesText, List.flatMap_cons, List.append_assoc, List.append_assoc, ← linesText,
        splitLines_oneLine l.1.oneLine (splitLines_ending hl _), hrest, List.append_nil]
      rfl

/-! ## Events that are tolerated -/

/-- What the reader makes of a payload in front of what it makes of the rest. -/
def readPayload (payload : Option (List Char)) (more : List Json × Option (List Char)) :
    List Json × Option (List Char) :=
  match payload with
  | none => more
  | some data =>
      if data = "[DONE]".toList then ([], none) else ((parse data).toList ++ more.1, more.2)

namespace SseEvent

theorem extractDataPayload_body {e : SseEvent} (h : ∀ l ∈ e.init, l.2 ≠ .cr) :
    extractDataPayload e.body = e.payload := by
  have hlines : splitLines e.body = (e.init ++ [e.last]).map fun l => l.1.text := by
    rw [body, splitLines_lines h, splitLines_line e.last.1.oneLine, List.map_append]
    rfl
  rw [extractDataPayload, hlines]
  rfl

theorem takeEvent_text {e : SseEvent} (h : e.Tolerated) (rest : List Char) :
    takeEvent (e.text ++ rest) = some (e.body, rest) := by
  rcases h with ⟨-, hlast, hblank⟩
  -- The last line end and the blank line are one of the two boundaries.
  have hend : takeEvent (e.last.2.text ++ e.blank.text ++ rest) = some ([], rest) := by
    rw [hblank]
    cases hending : e.last.2 with
    | lf =>
        show takeEvent ('\n' :: '\n' :: rest) = _
        rw [takeEvent_cons]
        exact if_pos rfl
    | crlf =>
        show takeEvent ('\r' :: '\n' :: '\r' :: '\n' :: rest) = _
        rw [takeEvent_cons]
        exact if_pos rfl
    | cr => exact absurd hending hlast
  have hsplit : e.text ++ rest =
      linesText e.init ++ (e.last.1.text ++ (e.last.2.text ++ e.blank.text ++ rest)) := by
    simp [text, body]
  rw [hsplit, takeEvent_lines _ (e.last.1.noBreak _), takeEvent_oneLine e.last.1.oneLine, hend]
  simp [body]

/-- An event that is tolerated is read by its payload. -/
theorem drain_text {e : SseEvent} (h : e.Tolerated) (rest : List Char) :
    drain (e.text ++ rest) = readPayload e.payload (drain rest) := by
  rw [drain_of_some (takeEvent_text h rest), extractDataPayload_body h.1]
  rfl

theorem plain_tolerated (e : SseEvent) : e.plain.Tolerated := by
  refine ⟨?_, nofun, rfl⟩
  intro l hl
  rcases List.mem_map.1 hl with ⟨l', -, rfl⟩
  exact nofun

@[simp] theorem plain_payload (e : SseEvent) : e.plain.payload = e.payload := by
  have hlines : ((e.plain.init ++ [e.plain.last]).map fun l => l.1.text) =
      (e.init ++ [e.last]).map fun l => l.1.text := by
    simp [plain]
  rw [payload, hlines]
  rfl

end SseEvent

theorem drain_streamText {events : List SseEvent} (h : ∀ e ∈ events, e.Tolerated)
    (rest : List Char) :
    drain (streamText events ++ rest) =
      (events.map SseEvent.payload).foldr readPayload (drain rest) := by
  induction events with
  | nil => rfl
  | cons e events ih =>
      have hrest := ih fun e' he' => h e' (List.mem_cons_of_mem e he')
      rw [streamText, List.flatMap_cons, List.append_assoc, ← streamText,
        SseEvent.drain_text (h e List.mem_cons_self), hrest]
      rfl

theorem drain_plain (events : List SseEvent) :
    drain (streamText (events.map SseEvent.plain)) =
      (events.map SseEvent.payload).foldr readPayload (drain []) := by
  have htolerated : ∀ e ∈ events.map SseEvent.plain, e.Tolerated := by
    intro e he
    rcases List.mem_map.1 he with ⟨e', -, rfl⟩
    exact e'.plain_tolerated
  have hdrain := drain_streamText htolerated []
  rw [List.append_nil] at hdrain
  rw [hdrain, List.map_map]
  congr 2
  funext e
  exact e.plain_payload

/-- A stream of tolerated events is read as with LF everywhere. -/
theorem readAlike_of_tolerated {events : List SseEvent} (h : ∀ e ∈ events, e.Tolerated) :
    ReadAlike events := by
  have hdrain := drain_streamText h []
  rw [List.append_nil] at hdrain
  rw [readAlike_iff, hdrain, drain_plain]

/-! ## Texts without data -/

/-- No line of the text begins as a `data:` field does. -/
def NoDataLine (s : List Char) : Prop :=
  List.IsChain (fun b c => b = '\n' → c ≠ 'd') ('\n' :: s)

theorem noDataLine_of_not_mem {s : List Char} (h : 'd' ∉ s) : NoDataLine s := by
  refine List.Pairwise.isChain (List.Pairwise.imp_of_mem ?_
    (List.pairwise_of_forall fun _ _ => trivial))
  rintro b c - hc - - rfl
  rcases List.mem_cons.1 hc with hfeed | hmem
  · exact absurd hfeed (by decide)
  · exact h hmem

/-- A field behind a lone CR begins no line. -/
theorem noDataLine_cr {s t : List Char} (hs : 'd' ∉ s) (ht : 'd' ∉ t) :
    NoDataLine (s ++ '\r' :: 'd' :: t) := by
  have hfirst : NoDataLine (s ++ ['\r']) := noDataLine_of_not_mem (by simp [hs])
  have hrest : List.IsChain (fun b c : Char => b = '\n' → c ≠ 'd') ('d' :: t) := by
    have hhead : ∀ c ∈ t, 'd' = '\n' → c ≠ 'd' := fun c _ hfeed => absurd hfeed (by decide)
    refine List.Pairwise.isChain (List.pairwise_cons.2 ⟨hhead, ?_⟩)
    refine List.Pairwise.imp_of_mem ?_ (List.pairwise_of_forall fun _ _ => trivial)
    rintro b c - hc - - rfl
    exact ht hc
  have hsplit : '\n' :: (s ++ '\r' :: 'd' :: t) = ('\n' :: (s ++ ['\r'])) ++ 'd' :: t := by simp
  rw [NoDataLine, hsplit]
  refine List.isChain_append.2 ⟨hfirst, hrest, ?_⟩
  -- Where the two meet, the character in front is the CR and no line feed.
  intro b hb c hc hfeed
  have hlast : ('\n' :: (s ++ ['\r'])).getLast? = some '\r' := by
    rw [← List.cons_append]
    exact List.getLast?_concat
  have hreturn : '\r' = b := Option.some.inj (hlast.symm.trans hb)
  exact absurd (hreturn.trans hfeed) (by decide)

theorem dataOfLine_of_head {line : List Char} (h : line.head? ≠ some 'd') :
    dataOfLine line = none := by
  refine if_neg fun hprefix => h ?_
  rcases List.isPrefixOf_iff_prefix.1 hprefix with ⟨t, rfl⟩
  rfl

/-- The lines of a text behind the character `b`. -/
theorem head_of_splitLines {b : Char} {s : List Char}
    (h : List.IsChain (fun b c => b = '\n' → c ≠ 'd') (b :: s)) {first : List Char}
    {more : List (List Char)} (hs : splitLines s = first :: more) :
    (b = '\n' → first.head? ≠ some 'd') ∧ ∀ l ∈ more, l.head? ≠ some 'd' := by
  fun_induction splitLines s generalizing b first more with
  | case1 =>
      cases hs
      simp
  | case2 cs ih =>
      cases hs
      cases hcs : splitLines cs with
      | nil => exact absurd hcs (splitLines_ne_nil cs)
      | cons first more =>
          have hrest := ih h.tail.tail hcs
          exact ⟨by simp, List.forall_mem_cons.2 ⟨hrest.1 rfl, hrest.2⟩⟩
  | case3 cs ih =>
      cases hs
      cases hcs : splitLines cs with
      | nil => exact absurd hcs (splitLines_ne_nil cs)
      | cons first more =>
          have hrest := ih h.tail hcs
          exact ⟨by simp, List.forall_mem_cons.2 ⟨hrest.1 rfl, hrest.2⟩⟩
  | case4 c cs _ _ line lines hcs ih =>
      cases hs
      have hc : b = '\n' → c ≠ 'd' := (List.isChain_cons_cons.1 h).1
      exact ⟨fun hb => by simpa using hc hb, (ih h.tail hcs).2⟩
  | case5 c cs _ _ hcs ih =>
      exact absurd hcs (splitLines_ne_nil cs)

theorem extractDataPayload_of_noDataLine {s : List Char} (h : NoDataLine s) :
    extractDataPayload s = none := by
  have hnone : (splitLines s).filterMap dataOfLine = [] := by
    refine List.filterMap_eq_nil_iff.2 fun line hline => dataOfLine_of_head ?_
    cases hs : splitLines s with
    | nil => exact absurd hs (splitLines_ne_nil s)
    | cons first more =>
        rw [hs] at hline
        rcases List.mem_cons.1 hline with rfl | hmore
        · exact (head_of_splitLines h hs).1 rfl
        · exact (head_of_splitLines h hs).2 line hmore
  simp [extractDataPayload, hnone]

/-- A text without data yields nothing, and leaves a text without data. -/
theorem drain_of_noDataLine {s : List Char} (h : NoDataLine s) :
    ∃ rest, drain s = ([], some rest) ∧ NoDataLine rest := by
  revert h
  refine drain_induct
    (motive := fun s r => NoDataLine s → ∃ rest, r = ([], some rest) ∧ NoDataLine rest)
    ?wait ?done ?event s
  case wait => exact fun s _ h => ⟨s, rfl, h⟩
  case done =>
    intro s event rest htake hdone h
    rcases exists_of_takeEvent htake with ⟨ending, -, rfl, -⟩
    rw [NoDataLine, List.append_assoc, ← List.cons_append] at h
    have hevent : NoDataLine event := h.left_of_append
    rw [IsDone, extractDataPayload_of_noDataLine hevent] at hdone
    cases hdone
  case event =>
    intro s event rest htake _ ih h
    rcases exists_of_takeEvent htake with ⟨ending, hending, rfl, -⟩
    -- Both boundaries end in the line feed that the rest stands behind.
    have hsuffix : ∃ front, '\n' :: (event ++ ending ++ rest) = front ++ '\n' :: rest := by
      rcases hending with rfl | rfl
      · exact ⟨'\n' :: (event ++ ['\n']), by simp⟩
      · exact ⟨'\n' :: (event ++ ['\r', '\n', '\r']), by simp⟩
    rcases hsuffix with ⟨front, hfront⟩
    rw [NoDataLine] at h
    have hrest := h
    rw [hfront] at hrest
    rcases ih hrest.right_of_append with ⟨left, hleft, hnone⟩
    rw [List.append_assoc, ← List.cons_append] at h
    have hevent : NoDataLine event := h.left_of_append
    refine ⟨left, ?_, hnone⟩
    rw [hleft, chunkOf, extractDataPayload_of_noDataLine hevent]
    rfl

/-- A text without data has no end mark. -/
theorem drain_noDataLine {s : List Char} (h : NoDataLine s) : (drain s).2 ≠ none := by
  rcases drain_of_noDataLine h with ⟨rest, hdrain, -⟩
  rw [hdrain]
  nofun

/-! ## Other lines under the same endings -/

/-- A comment. -/
def comment : Line where
  text := [':']
  nonempty := by decide
  oneLine := by
    intro c hc
    rw [List.mem_singleton.1 hc]
    decide

def doneLine : Line where
  text := "data: [DONE]".toList
  nonempty := by decide
  oneLine := oneLine_of_printable (printable_of_all rfl)

def chunkLine : Line where
  text := "data: 1".toList
  nonempty := by decide
  oneLine := oneLine_of_printable (printable_of_all rfl)

/-- Comments with the endings of some lines. -/
def commentsFor (lines : List (Line × Ending)) : List (Line × Ending) :=
  lines.map fun l => (comment, l.2)

theorem not_mem_linesText_commentsFor (lines : List (Line × Ending)) :
    'd' ∉ linesText (commentsFor lines) := by
  intro hmem
  rcases List.mem_flatMap.1 hmem with ⟨l, hl, hd⟩
  rcases List.mem_map.1 hl with ⟨l', -, rfl⟩
  rcases List.mem_append.1 hd with hd | hd
  · have hcolon : 'd' ∉ [':'] := by decide
    exact hcolon hd
  · cases hending : l'.2 <;> simp [hending, Ending.text] at hd

theorem not_mem_ending (e : Ending) : 'd' ∉ e.text := by
  cases e <;> decide

@[simp] theorem data_commentsFor (lines : List (Line × Ending)) :
    ((commentsFor lines).map fun l => l.1.text).filterMap dataOfLine = [] := by
  induction lines with
  | nil => rfl
  | cons l lines ih => exact ih

@[simp] theorem commentsFor_endings (lines : List (Line × Ending)) :
    (commentsFor lines).map Prod.snd = lines.map Prod.snd := by
  simp [commentsFor]

namespace SseEvent

/-- Comments, and the given line as the last. -/
def withLast (l : Line) (e : SseEvent) : SseEvent where
  init := commentsFor e.init
  last := (l, e.last.2)
  blank := e.blank

def comments (e : SseEvent) : SseEvent :=
  e.withLast comment

/-- The given line, and comments behind it. -/
def withFirst (l : Line) (e : SseEvent) : SseEvent :=
  match e.init with
  | [] => e.withLast l
  | l' :: lines =>
      { init := (l, l'.2) :: commentsFor lines, last := (comment, e.last.2), blank := e.blank }

@[simp] theorem withLast_layout (l : Line) (e : SseEvent) : (e.withLast l).layout = e.layout := by
  simp [layout, withLast]

@[simp] theorem comments_layout (e : SseEvent) : e.comments.layout = e.layout :=
  e.withLast_layout comment

@[simp] theorem withFirst_layout (l : Line) (e : SseEvent) : (e.withFirst l).layout = e.layout := by
  cases hinit : e.init with
  | nil => simp [withFirst, hinit]
  | cons l' lines => simp [withFirst, hinit, layout]

theorem withLast_text (l : Line) (e : SseEvent) :
    (e.withLast l).text =
      linesText (commentsFor e.init) ++ (l.text ++ (e.last.2.text ++ e.blank.text)) := by
  simp [text, body, withLast]

theorem not_mem_comments_text (e : SseEvent) : 'd' ∉ e.comments.text := by
  rw [comments, withLast_text]
  simp only [List.mem_append, not_or]
  exact ⟨not_mem_linesText_commentsFor e.init, by decide, not_mem_ending _, not_mem_ending _⟩

/-- What stands behind the first line. -/
theorem withFirst_text (l : Line) (e : SseEvent) :
    ∃ rest, 'd' ∉ rest ∧ (e.withFirst l).text = l.text ++ rest := by
  cases hinit : e.init with
  | nil =>
      refine ⟨e.last.2.text ++ e.blank.text, ?_, ?_⟩
      · simp [not_mem_ending]
      · simp [withFirst, hinit, withLast_text, commentsFor, linesText]
  | cons l' lines =>
      refine ⟨l'.2.text ++ (linesText (commentsFor lines) ++
        (comment.text ++ (e.last.2.text ++ e.blank.text))), ?_, ?_⟩
      · simp only [List.mem_append, not_or]
        exact ⟨not_mem_ending _, not_mem_linesText_commentsFor lines, by decide, not_mem_ending _,
          not_mem_ending _⟩
      · simp [withFirst, hinit, text, body, linesText]

theorem payload_of_data {e : SseEvent} {data : List Char}
    (h : ((e.init ++ [e.last]).map fun l => l.1.text).filterMap dataOfLine = [data]) :
    e.payload = some data := by
  simp only [payload, h]
  exact congrArg some (List.append_nil data)

theorem withLast_payload {l : Line} {data : List Char} (h : dataOfLine l.text = some data)
    (e : SseEvent) : (e.withLast l).payload = some data := by
  refine payload_of_data ?_
  rw [withLast, List.map_append, List.filterMap_append, data_commentsFor]
  simp [h]

theorem withFirst_payload {l : Line} {data : List Char} (h : dataOfLine l.text = some data)
    (e : SseEvent) : (e.withFirst l).payload = some data := by
  cases hinit : e.init with
  | nil =>
      rw [withFirst, hinit]
      exact withLast_payload h e
  | cons l' lines =>
      refine payload_of_data ?_
      have hcomment : dataOfLine comment.text = none := by decide
      simp [withFirst, hinit, h, commentsFor, hcomment]

theorem comments_payload (e : SseEvent) : e.comments.payload = none := by
  have hdata : ((e.comments.init ++ [e.comments.last]).map fun l => l.1.text).filterMap
      dataOfLine = [] := by
    rw [comments, withLast, List.map_append, List.filterMap_append, data_commentsFor]
    rfl
  simp only [payload, hdata]
  rfl

end SseEvent

theorem dataOfLine_doneLine : dataOfLine doneLine.text = some "[DONE]".toList := by
  decide

theorem not_mem_streamText_comments (events : List SseEvent) :
    'd' ∉ streamText (events.map SseEvent.comments) := by
  intro hmem
  rcases List.mem_flatMap.1 hmem with ⟨e, he, hd⟩
  rcases List.mem_map.1 he with ⟨e', -, rfl⟩
  exact e'.not_mem_comments_text hd

/-! ## Streams that are misread -/

/-- An end mark ends the reading. -/
theorem foldr_readPayload_done {payloads : List (Option (List Char))}
    (h : some "[DONE]".toList ∈ payloads) (more : List Json × Option (List Char)) :
    (payloads.foldr readPayload more).2 = none := by
  induction payloads with
  | nil => cases h
  | cons payload payloads ih =>
      rw [List.foldr_cons]
      rcases List.mem_cons.1 h with rfl | hmem
      · rfl
      · unfold readPayload
        split
        · exact ih hmem
        · split
          · rfl
          · exact ih hmem

theorem finish_done (p : List Json × Option (List Char)) : (finish p).done = p.2.isNone := by
  rcases p with ⟨chunks, - | rest⟩
  · rfl
  · rfl

/-- Tolerated comments yield nothing. -/
theorem drain_comments {good : List SseEvent} (hgood : ∀ e ∈ good, e.Tolerated)
    (rest : List Char) :
    drain (streamText (good.map SseEvent.comments) ++ rest) = drain rest := by
  induction good with
  | nil => rfl
  | cons e good ih =>
      have he : e.comments.Tolerated := by
        rcases hgood e List.mem_cons_self with ⟨-, hlast, hblank⟩
        have hinit := (hgood e List.mem_cons_self).1
        refine ⟨fun l hl => ?_, hlast, hblank⟩
        rcases List.mem_map.1 hl with ⟨l', hl', rfl⟩
        exact hinit l' hl'
      have hrest := ih fun e' he' => hgood e' (List.mem_cons_of_mem e he')
      rw [List.map_cons, streamText, List.flatMap_cons, List.append_assoc, ← streamText,
        SseEvent.drain_text he, SseEvent.comments_payload, hrest]
      rfl

/-- A stream whose end mark is missed behind tolerated comments is not read as with LF. -/
theorem not_readAlike_of_missed {good more : List SseEvent} (hgood : ∀ e ∈ good, e.Tolerated)
    (hdone : some "[DONE]".toList ∈ more.map SseEvent.payload)
    (hmissed : (drain (streamText more)).2 ≠ none) :
    ¬ ReadAlike (good.map SseEvent.comments ++ more) := by
  rw [readAlike_iff]
  intro h
  have hsame := congrArg Parsed.done h
  rw [finish_done, finish_done, streamText, List.flatMap_append, ← streamText, ← streamText,
    drain_comments hgood, drain_plain] at hsame
  have hplain : (((good.map SseEvent.comments ++ more).map SseEvent.payload).foldr readPayload
      (drain [])).2 = none :=
    foldr_readPayload_done (by rw [List.map_append]; exact List.mem_append_right _ hdone) _
  rw [hplain, Option.isNone_none, Option.isNone_iff_eq_none] at hsame
  exact hmissed hsame

/-- A lone CR in front of the line with the end mark hides it. -/
theorem missed_behind_cr {front : List Char} (hfront : 'd' ∉ front) (e : SseEvent)
    (more : List SseEvent) :
    (drain (front ++ '\r' :: ((e.withFirst doneLine).text ++
      streamText (more.map SseEvent.comments)))).2 ≠ none := by
  rcases e.withFirst_text doneLine with ⟨rest, hrest, htext⟩
  have hsplit : front ++ '\r' :: ((e.withFirst doneLine).text ++
        streamText (more.map SseEvent.comments)) =
      front ++ '\r' :: 'd' ::
        ("ata: [DONE]".toList ++ (rest ++ streamText (more.map SseEvent.comments))) := by
    rw [htext, List.append_assoc]
    rfl
  rw [hsplit]
  refine drain_noDataLine (noDataLine_cr hfront ?_)
  simp only [List.mem_append, not_or]
  exact ⟨by decide, hrest, not_mem_streamText_comments more⟩

/-- Comments add nothing to a payload. -/
theorem extractDataPayload_commentsFor {lines : List (Line × Ending)}
    (h : ∀ l ∈ lines, l.2 ≠ .cr) (s : List Char) :
    extractDataPayload (linesText (commentsFor lines) ++ s) = extractDataPayload s := by
  have hcomments : ∀ l ∈ commentsFor lines, l.2 ≠ .cr := by
    intro l hl
    rcases List.mem_map.1 hl with ⟨l', hl', rfl⟩
    exact h l' hl'
  have hdata : (splitLines (linesText (commentsFor lines) ++ s)).filterMap dataOfLine =
      (splitLines s).filterMap dataOfLine := by
    rw [splitLines_lines hcomments, List.filterMap_append, data_commentsFor, List.nil_append]
  rw [extractDataPayload, hdata]
  rfl

/-- A payload that begins with another line's data is not the end mark. -/
theorem not_isDone_chunkLine (s : List Char) : ¬ IsDone (chunkLine.text ++ s) := by
  cases hs : splitLines s with
  | nil => exact absurd hs (splitLines_ne_nil s)
  | cons first more =>
      have hdata : dataOfLine (chunkLine.text ++ first) = some ('1' :: first) := rfl
      have hall : (splitLines (chunkLine.text ++ s)).filterMap dataOfLine =
          ('1' :: first) :: more.filterMap dataOfLine := by
        rw [splitLines_oneLine chunkLine.oneLine hs, List.filterMap_cons_some hdata]
      rw [IsDone, extractDataPayload, hall]
      intro hdone
      have hpayload : List.intercalate ['\n'] (('1' :: first) :: more.filterMap dataOfLine) =
          "[DONE]".toList := Option.some.inj hdone
      have hhead : (List.intercalate ['\n'] (('1' :: first) :: more.filterMap dataOfLine)).head? =
          some '1' := by
        cases more.filterMap dataOfLine <;> rfl
      rw [hpayload] at hhead
      exact absurd hhead (by decide)

/-- Blank lines that are neither seen as a boundary nor hide what follows. -/
def Merges (e b : Ending) : Prop :=
  (e = .cr ∧ b = .lf) ∨ (e = .cr ∧ b = .crlf) ∨ (e = .lf ∧ b = .crlf)

theorem takeEvent_merges {e b : Ending} (h : Merges e b) {s : List Char} (hs : NoBreak s) :
    takeEvent (e.text ++ b.text ++ s) =
      (takeEvent s).map fun p => (e.text ++ b.text ++ p.1, p.2) := by
  rcases h with ⟨rfl, rfl⟩ | ⟨rfl, rfl⟩ | ⟨rfl, rfl⟩
  · exact takeEvent_ending hs .crlf
  · have hat : ¬ atBoundary ('\r' :: (Ending.crlf.text ++ s)) = true := by
      simp [atBoundary, Ending.text]
    show takeEvent ('\r' :: (Ending.crlf.text ++ s)) = _
    rw [takeEvent_cons, if_neg hat, takeEvent_ending hs .crlf, Option.map_map]
    rfl
  · have hat : ¬ atBoundary ('\n' :: (Ending.crlf.text ++ s)) = true := by
      simp [atBoundary, Ending.text]
    show takeEvent ('\n' :: (Ending.crlf.text ++ s)) = _
    rw [takeEvent_cons, if_neg hat, takeEvent_ending hs .crlf, Option.map_map]
    rfl

/-- An event that is merged with the end mark takes it away. -/
theorem missed_merged {e : SseEvent} (hinit : ∀ l ∈ e.init, l.2 ≠ .cr)
    (h : Merges e.last.2 e.blank) (next : SseEvent) (more : List SseEvent) :
    (drain ((e.withLast chunkLine).text ++ ((next.withFirst doneLine).text ++
      streamText (more.map SseEvent.comments)))).2 ≠ none := by
  rcases next.withFirst_text doneLine with ⟨rest, hrest, htext⟩
  let tail := "ata: [DONE]".toList ++ (rest ++ streamText (more.map SseEvent.comments))
  have htail : 'd' ∉ tail := by
    simp only [tail, List.mem_append, not_or]
    exact ⟨by decide, hrest, not_mem_streamText_comments more⟩
  have hsplit : (e.withLast chunkLine).text ++ ((next.withFirst doneLine).text ++
        streamText (more.map SseEvent.comments)) =
      linesText (commentsFor e.init) ++
        (chunkLine.text ++ (e.last.2.text ++ e.blank.text ++ 'd' :: tail)) := by
    rw [SseEvent.withLast_text, htext]
    simp only [List.append_assoc]
    rfl
  have hbreak : NoBreak ('d' :: tail) := by
    intro c hc
    cases hc
    decide
  have hd : ¬ atBoundary ('d' :: tail) = true := by
    simp [atBoundary]
  have htake := takeEvent_lines (commentsFor e.init) (chunkLine.noBreak
    (e.last.2.text ++ e.blank.text ++ 'd' :: tail))
  rw [takeEvent_oneLine chunkLine.oneLine, takeEvent_merges h hbreak, takeEvent_cons,
    if_neg hd] at htake
  rw [hsplit]
  -- Whatever ends the merged event, its payload begins with the chunk.
  cases hnext : takeEvent tail with
  | none =>
      rw [hnext] at htake
      rw [drain_of_none htake]
      exact Option.some_ne_none _
  | some p =>
      rcases p with ⟨event, left⟩
      rw [hnext] at htake
      simp only [Option.map_some] at htake
      have hdone : ¬ IsDone (linesText (commentsFor e.init) ++
          (chunkLine.text ++ (e.last.2.text ++ e.blank.text ++ 'd' :: event))) := by
        rw [IsDone, extractDataPayload_commentsFor hinit]
        exact not_isDone_chunkLine _
      rcases exists_of_takeEvent hnext with ⟨ending, -, hleft, -⟩
      rw [drain_of_event htake hdone]
      refine drain_noDataLine (noDataLine_of_not_mem fun hmem => htail ?_)
      rw [hleft]
      exact List.mem_append_right _ hmem

/-- A CR that stays with the end mark spoils it. -/
theorem missed_spoiled {e : SseEvent} (hinit : ∀ l ∈ e.init, l.2 ≠ .cr) (hlast : e.last.2 = .crlf)
    (hblank : e.blank = .lf) (more : List SseEvent) :
    (drain ((e.withLast doneLine).text ++ streamText (more.map SseEvent.comments))).2 ≠ none := by
  let rest := streamText (more.map SseEvent.comments)
  have hend : takeEvent ('\r' :: '\n' :: '\n' :: rest) = some (['\r'], rest) := by
    have hat : ¬ atBoundary ('\r' :: '\n' :: '\n' :: rest) = true := by
      simp [atBoundary]
    have hfeed : takeEvent ('\n' :: '\n' :: rest) = some ([], rest) := by
      rw [takeEvent_cons]
      exact if_pos rfl
    rw [takeEvent_cons, if_neg hat, hfeed]
    rfl
  have hsplit : (e.withLast doneLine).text ++ rest =
      linesText (commentsFor e.init) ++ (doneLine.text ++ '\r' :: '\n' :: '\n' :: rest) := by
    rw [SseEvent.withLast_text, hlast, hblank]
    simp [Ending.text]
  have htake := takeEvent_lines (commentsFor e.init) (doneLine.noBreak
    ('\r' :: '\n' :: '\n' :: rest))
  rw [takeEvent_oneLine doneLine.oneLine, hend] at htake
  simp only [Option.map_some] at htake
  have hdone : ¬ IsDone (linesText (commentsFor e.init) ++ (doneLine.text ++ ['\r'])) := by
    rw [IsDone, extractDataPayload_commentsFor hinit]
    decide
  -- The event is read as `[DONE]` and a CR, and behind it there are comments only.
  rw [hsplit, drain_of_event htake hdone]
  exact drain_noDataLine (noDataLine_of_not_mem (not_mem_streamText_comments more))

/-- An end mark without a blank line behind it is not found before the end of the body. -/
theorem missed_at_end {e : SseEvent} (hend : takeEvent (e.last.2.text ++ e.blank.text) = none) :
    (drain (e.withLast doneLine).text).2 ≠ none := by
  have htake := takeEvent_lines (commentsFor e.init)
    (doneLine.noBreak (e.last.2.text ++ e.blank.text))
  rw [takeEvent_oneLine doneLine.oneLine, hend] at htake
  rw [SseEvent.withLast_text, drain_of_none htake]
  exact nofun

/-! ## Which streams are read alike -/

/-- Toleration is a matter of the endings. -/
theorem tolerated_of_layout {e e' : SseEvent} (h : e'.layout = e.layout) (he : e.Tolerated) :
    e'.Tolerated := by
  rcases he with ⟨hinit, hlast, hblank⟩
  simp only [SseEvent.layout, Prod.mk.injEq] at h
  rcases h with ⟨hendings, hlast', hblank'⟩
  refine ⟨fun l hl => ?_, hlast'.symm ▸ hlast, (hblank'.trans hblank).trans hlast'.symm⟩
  have hmem : l.2 ∈ e.init.map Prod.snd := hendings ▸ List.mem_map_of_mem hl
  rcases List.mem_map.1 hmem with ⟨l', hl', hsame⟩
  exact hsame ▸ hinit l' hl'

/-- How an event with no CR behind its first lines fails to be tolerated. -/
theorem cases_of_not_tolerated {e : SseEvent} (h : ¬ e.Tolerated)
    (hinit : ∀ l ∈ e.init, l.2 ≠ .cr) :
    e.blank = .cr ∨ (e.last.2 = .crlf ∧ e.blank = .lf) ∨ Merges e.last.2 e.blank := by
  have hends : ¬ (e.last.2 ≠ .cr ∧ e.blank = e.last.2) := fun hboth => h ⟨hinit, hboth⟩
  revert hends
  unfold Merges
  generalize e.last.2 = ending
  generalize e.blank = blank
  cases ending <;> cases blank <;> decide

/-- A CR behind one of the first lines hides the line after it. -/
theorem exists_missed_cr {e : SseEvent} (h : ¬ ∀ l ∈ e.init, l.2 ≠ .cr) (after : List SseEvent) :
    ∃ e' : SseEvent, e'.layout = e.layout ∧ e'.payload = some "[DONE]".toList ∧
      (drain (e'.text ++ streamText (after.map SseEvent.comments))).2 ≠ none := by
  simp only [not_forall, not_not] at h
  rcases h with ⟨⟨line, ending⟩, hmem, hcr⟩
  rcases List.append_of_mem hmem with ⟨front, behind, hsplit⟩
  simp only at hcr
  subst hcr
  -- The end mark is the line behind the CR.
  let tail := SseEvent.withFirst doneLine { e with init := behind }
  refine ⟨{ tail with init := commentsFor front ++ (comment, .cr) :: tail.init }, ?_, ?_, ?_⟩
  · have htail : tail.layout = (behind.map Prod.snd, e.last.2, e.blank) :=
      SseEvent.withFirst_layout doneLine _
    simp only [SseEvent.layout, Prod.mk.injEq] at htail
    rcases htail with ⟨hinit, hlast, hblank⟩
    simp [SseEvent.layout, hsplit, hinit, hlast, hblank]
  · have htail : tail.payload = some "[DONE]".toList :=
      SseEvent.withFirst_payload dataOfLine_doneLine _
    have hcomment : dataOfLine comment.text = none := by decide
    rw [← htail]
    simp only [SseEvent.payload, List.append_assoc, List.cons_append, List.map_append,
      List.map_cons, List.filterMap_append, data_commentsFor, List.nil_append,
      List.filterMap_cons_none hcomment]
  · have hfront : 'd' ∉ linesText (commentsFor front) ++ comment.text := by
      simp only [List.mem_append, not_or]
      exact ⟨not_mem_linesText_commentsFor front, by decide⟩
    have hmissed := missed_behind_cr hfront { e with init := behind } after
    simpa [SseEvent.text, SseEvent.body, linesText, Ending.text, tail] using hmissed

/-- Under the endings of a last event that is not tolerated an end mark is missed. -/
theorem exists_missed_at_end {e : SseEvent} (h : ¬ e.Tolerated)
    (hinit : ∀ l ∈ e.init, l.2 ≠ .cr) : (drain (e.withLast doneLine).text).2 ≠ none := by
  rcases cases_of_not_tolerated h hinit with hcr | ⟨hlast, hblank⟩ | hmerges
  · refine missed_at_end ?_
    rw [hcr]
    cases e.last.2 <;> decide
  · simpa [streamText] using missed_spoiled hinit hlast hblank []
  · refine missed_at_end ?_
    rcases hmerges with ⟨hlast, hblank⟩ | ⟨hlast, hblank⟩ | ⟨hlast, hblank⟩
    all_goals
      rw [hlast, hblank]
      decide

/-- Under the endings of two events, the first of them not tolerated, an end mark is missed. -/
theorem exists_missed_between {e : SseEvent} (h : ¬ e.Tolerated) (hinit : ∀ l ∈ e.init, l.2 ≠ .cr)
    (next : SseEvent) (after : List SseEvent) :
    ∃ e' next' : SseEvent, e'.layout = e.layout ∧ next'.layout = next.layout ∧
      some "[DONE]".toList ∈ [e'.payload, next'.payload] ∧
      (drain (e'.text ++ (next'.text ++ streamText (after.map SseEvent.comments)))).2 ≠ none := by
  have hnext : (next.withFirst doneLine).payload = some "[DONE]".toList :=
    SseEvent.withFirst_payload dataOfLine_doneLine next
  rcases cases_of_not_tolerated h hinit with hcr | ⟨hlast, hblank⟩ | hmerges
  · -- The CR of the blank line hides the end mark.
    refine ⟨e.comments, next.withFirst doneLine, e.comments_layout, next.withFirst_layout _,
      by simp [hnext], ?_⟩
    have hfront : 'd' ∉ e.comments.body ++ e.last.2.text := by
      intro hmem
      refine e.not_mem_comments_text ?_
      rw [SseEvent.text, ← List.append_assoc]
      exact List.mem_append_left _ hmem
    have hmissed := missed_behind_cr hfront next after
    simpa [SseEvent.text, SseEvent.comments, SseEvent.withLast, hcr, Ending.text] using hmissed
  · -- The CR in front of the blank line stays with the end mark.
    refine ⟨e.withLast doneLine, next.comments, e.withLast_layout _, next.comments_layout, ?_, ?_⟩
    · simp [SseEvent.withLast_payload dataOfLine_doneLine e]
    · simpa [streamText] using missed_spoiled hinit hlast hblank (next :: after)
  · -- The two events are read as one.
    refine ⟨e.withLast chunkLine, next.withFirst doneLine, e.withLast_layout _,
      next.withFirst_layout _, by simp [hnext], ?_⟩
    exact missed_merged hinit hmerges next after

/-- Under the endings of a stream whose first event is not tolerated an end mark is missed. -/
theorem exists_missed {e : SseEvent} (h : ¬ e.Tolerated) (after : List SseEvent) :
    ∃ more : List SseEvent, more.map SseEvent.layout = (e :: after).map SseEvent.layout ∧
      some "[DONE]".toList ∈ more.map SseEvent.payload ∧ (drain (streamText more)).2 ≠ none := by
  have hcomments : ∀ events : List SseEvent,
      (events.map SseEvent.comments).map SseEvent.layout = events.map SseEvent.layout := by
    simp
  by_cases hinit : ∀ l ∈ e.init, l.2 ≠ .cr
  · cases after with
    | nil =>
        refine ⟨[e.withLast doneLine], ?_, ?_, ?_⟩
        · simp
        · simp [SseEvent.withLast_payload dataOfLine_doneLine e]
        · simpa [streamText] using exists_missed_at_end h hinit
    | cons next after =>
        rcases exists_missed_between h hinit next after with
          ⟨e', next', he', hnext', hdone, hmissed⟩
        refine ⟨e' :: next' :: after.map SseEvent.comments, ?_, ?_, ?_⟩
        · rw [List.map_cons, List.map_cons, hcomments, he', hnext']
          rfl
        · exact List.mem_append_left _ hdone
        · simpa [streamText] using hmissed
  · rcases exists_missed_cr hinit after with ⟨e', he', hdone, hmissed⟩
    refine ⟨e' :: after.map SseEvent.comments, ?_, ?_, ?_⟩
    · rw [List.map_cons, hcomments, he']
      rfl
    · simp [hdone]
    · simpa [streamText] using hmissed

theorem exists_first_not_tolerated {events : List SseEvent} (h : ¬ ∀ e ∈ events, e.Tolerated) :
    ∃ good e after, events = good ++ e :: after ∧ (∀ e ∈ good, e.Tolerated) ∧ ¬ e.Tolerated := by
  induction events with
  | nil => exact absurd (List.forall_mem_nil _) h
  | cons e events ih =>
      by_cases he : e.Tolerated
      · have hrest : ¬ ∀ e ∈ events, e.Tolerated := fun hall =>
          h (List.forall_mem_cons.2 ⟨he, hall⟩)
        rcases ih hrest with ⟨good, bad, after, rfl, hgood, hbad⟩
        exact ⟨e :: good, bad, after, rfl, List.forall_mem_cons.2 ⟨he, hgood⟩, hbad⟩
      · exact ⟨[], e, events, rfl, List.forall_mem_nil _, he⟩

/-- A stream, and every other with the same line endings, is read as with LF everywhere if and only
if no line of it ends in CR and every blank line ends as the line before it. -/
theorem readAlike_iff_tolerated (events : List SseEvent) :
    (∀ events' : List SseEvent, events'.map SseEvent.layout = events.map SseEvent.layout →
        ReadAlike events') ↔
      ∀ e ∈ events, e.Tolerated := by
  constructor
  · intro halike
    by_contra h
    -- Comments under the endings in front of the first bad event leave the buffer to it.
    rcases exists_first_not_tolerated h with ⟨good, e, after, rfl, hgood, he⟩
    rcases exists_missed he after with ⟨more, hlayout, hdone, hmissed⟩
    refine not_readAlike_of_missed hgood hdone hmissed (halike _ ?_)
    rw [List.map_append, List.map_append, hlayout]
    simp
  · intro h events' hlayout
    refine readAlike_of_tolerated fun e' he' => ?_
    have hmem : e'.layout ∈ events.map SseEvent.layout := hlayout ▸ List.mem_map_of_mem he'
    rcases List.mem_map.1 hmem with ⟨e, he, hsame⟩
    exact tolerated_of_layout hsame.symm (h e he)

/-- With CR everywhere a chunk and the end mark are read as one event that nothing ends. -/
theorem carriage_returns_not_tolerated :
    let chunk : SseEvent := { init := [], last := (chunkLine, .cr), blank := .cr }
    let done : SseEvent := { init := [], last := (doneLine, .cr), blank := .cr }
    streamText [chunk, done] = "data: 1\r\rdata: [DONE]\r\r".toList ∧
      (parseSseChunks [.text (streamText [chunk, done])]).done = false ∧
      (parseSseChunks [.text (streamText ([chunk, done].map SseEvent.plain))]).done = true ∧
      ¬ ReadAlike [chunk, done] := by
  intro chunk done
  have hcut : ∀ s : List Char, bodyText {} [.text s] = s := fun s => List.append_nil s
  have hreturns : (parseSseChunks [.text (streamText [chunk, done])]).done = false := by
    have htake : takeEvent (streamText [chunk, done]) = none := by decide
    rw [parseSseChunks_eq, hcut, drain_of_none htake]
    rfl
  have hfeeds : (parseSseChunks [.text (streamText ([chunk, done].map SseEvent.plain))]).done =
      true := by
    rw [parseSseChunks_eq, hcut, finish_done, drain_plain]
    rfl
  refine ⟨by decide, hreturns, hfeeds, fun halike => ?_⟩
  have hsame := congrArg Parsed.done (halike _ _ (hcut _) (hcut _))
  rw [hreturns, hfeeds] at hsame
  exact absurd hsame (by decide)

end Cli
end OpenRouter
