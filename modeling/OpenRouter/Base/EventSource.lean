import OpenRouter.Base.JsonLines

/-!
# EventSource — texts as server-sent events

A server of events writes the lines of a text behind `data: ` and ends the event with a blank line;
between two events it may write comments.  `Framed` says which bodies are written for some texts,
and `noLine_framed` how the lines of such a body begin.
-/

namespace OpenRouter
namespace Base

/-! ## Events -/

/-- The lines of a text, ended by CR, LF or both. -/
def breakLines : List Char → List (List Char)
  | [] => [[]]
  | '\r' :: '\n' :: cs => [] :: breakLines cs
  | '\r' :: cs => [] :: breakLines cs
  | '\n' :: cs => [] :: breakLines cs
  | c :: cs =>
      match breakLines cs with
      | line :: lines => (c :: line) :: lines
      | [] => [[c]]

def lineBreak (crlf : Bool) : List Char :=
  if crlf then ['\r', '\n'] else ['\n']

def dataField : List Char :=
  ['d', 'a', 't', 'a', ':', ' ']

def dataLine (crlf : Bool) (line : List Char) : List Char :=
  dataField ++ (line ++ lineBreak crlf)

/-- The event of a text. -/
def dataEvent (crlf : Bool) (text : List Char) : List Char :=
  (breakLines text).flatMap (dataLine crlf) ++ lineBreak crlf

/-- The event of a comment. -/
def commentEvent (crlf : Bool) (line : List Char) : List Char :=
  ':' :: (line ++ (lineBreak crlf ++ lineBreak crlf))

/-- A body that is written for some texts, with comments anywhere. -/
inductive Framed (crlf : Bool) : List (List Char) → List Char → Prop
  | done : Framed crlf [] []
  | comment {texts : List (List Char)} {body : List Char} (line : List Char)
      (oneLine : ∀ c ∈ line, c ≠ '\n' ∧ c ≠ '\r') (rest : Framed crlf texts body) :
      Framed crlf texts (commentEvent crlf line ++ body)
  | data {texts : List (List Char)} {body : List Char} (text : List Char)
      (rest : Framed crlf texts body) :
      Framed crlf (text :: texts) (dataEvent crlf text ++ body)

theorem framed_dataEvents (crlf : Bool) (texts : List (List Char)) :
    Framed crlf texts (texts.flatMap (dataEvent crlf)) := by
  induction texts with
  | nil => exact .done
  | cons text texts ih => exact .data text ih

/-! ## Lines -/

theorem breakLines_ne_nil (cs : List Char) : breakLines cs ≠ [] := by
  fun_induction breakLines cs <;> simp

/-- No line of a text has a line break. -/
theorem oneLine_of_mem_breakLines {cs line : List Char} (h : line ∈ breakLines cs) :
    ∀ c ∈ line, c ≠ '\n' ∧ c ≠ '\r' := by
  fun_induction breakLines cs generalizing line with
  | case1 => simp_all
  | case2 cs ih | case3 cs _ ih | case4 cs ih =>
      rcases List.mem_cons.1 h with rfl | h
      · simp
      · exact ih h
  | case5 c cs hcrlf hcr hlf first more heq ih =>
      have hc : c ≠ '\n' ∧ c ≠ '\r' := by
        constructor
        · rintro rfl
          exact hlf rfl
        · rintro rfl
          exact hcr rfl
      rcases List.mem_cons.1 h with rfl | h
      · exact List.forall_mem_cons.2 ⟨hc, ih (heq ▸ List.mem_cons_self)⟩
      · exact ih (heq ▸ List.mem_cons_of_mem _ h)
  | case6 => simp_all

/-- The first line of a text begins as the text does. -/
theorem breakLines_cons {c : Char} (hc : c ≠ '\n' ∧ c ≠ '\r') (cs : List Char) :
    ∃ line lines, breakLines (c :: cs) = (c :: line) :: lines := by
  have hcons : breakLines (c :: cs) =
      match breakLines cs with
      | line :: lines => (c :: line) :: lines
      | [] => [[c]] := by
    rw [breakLines]
    · rintro t rfl
      exact absurd rfl hc.2
    · exact hc.2
    · exact hc.1
  rw [hcons]
  cases breakLines cs with
  | nil => exact ⟨[], [], rfl⟩
  | cons line lines => exact ⟨line, lines, rfl⟩

/-! ## How the lines of a body begin -/

theorem NoLine.append {x : Char} {as bs : List Char} (has : NoLine x as) (hbs : NoLine x bs) :
    NoLine x (as ++ bs) := by
  refine List.isChain_append.2 ⟨has, hbs.tail, ?_⟩
  intro b _ c hc _
  cases bs with
  | nil => cases hc
  | cons d bs =>
      cases hc
      exact (List.isChain_cons_cons.1 hbs).1 rfl

/-- A line begins with nothing but its first character. -/
theorem noLine_of_oneLine {x c : Char} {cs : List Char} (hc : c ≠ x)
    (h : ∀ d ∈ c :: cs, d ≠ '\n' ∧ d ≠ '\r') : NoLine x (c :: cs) := by
  refine List.isChain_cons_cons.2 ⟨fun _ => hc, ?_⟩
  refine List.Pairwise.isChain
    (List.Pairwise.imp_of_mem ?_ (List.pairwise_of_forall fun _ _ => trivial))
  intro b d hb _ _ hfeed
  exact absurd hfeed (h b hb).1

/-- The characters that an event begins a line with. -/
def beginsLine (x : Char) : Bool :=
  [':', 'd', '\n', '\r'].contains x

theorem noLine_lineBreak {x : Char} (hx : beginsLine x = false) (crlf : Bool) :
    NoLine x (lineBreak crlf) := by
  have hne : x ≠ '\n' ∧ x ≠ '\r' := by
    constructor <;> rintro rfl <;> exact absurd hx (by decide)
  cases crlf with
  | false => exact List.isChain_cons_cons.2 ⟨fun _ => hne.1.symm, List.isChain_singleton _⟩
  | true =>
      exact List.isChain_cons_cons.2 ⟨fun _ => hne.2.symm,
        List.isChain_cons_cons.2 ⟨fun _ => hne.1.symm, List.isChain_singleton _⟩⟩

/-- The lines of a body begin as fields of data and comments do. -/
theorem noLine_framed {x : Char} (hx : beginsLine x = false) {crlf : Bool}
    {texts : List (List Char)} {body : List Char} (h : Framed crlf texts body) : NoLine x body := by
  have hbreak := noLine_lineBreak hx crlf
  have hcolon : ':' ≠ x := by
    rintro rfl
    exact absurd hx (by decide)
  have hdata : 'd' ≠ x := by
    rintro rfl
    exact absurd hx (by decide)
  induction h with
  | done => exact List.isChain_singleton _
  | comment line oneLine rest ih =>
      have hline : NoLine x (':' :: line) :=
        noLine_of_oneLine hcolon (List.forall_mem_cons.2 ⟨by decide, oneLine⟩)
      exact (hline.append (hbreak.append hbreak)).append ih
  | data text rest ih =>
      have hlines : ∀ lines : List (List Char), (∀ l ∈ lines, ∀ c ∈ l, c ≠ '\n' ∧ c ≠ '\r') →
          NoLine x (lines.flatMap (dataLine crlf)) := by
        intro lines hlines
        induction lines with
        | nil => exact List.isChain_singleton _
        | cons line lines ihl =>
            rcases List.forall_mem_cons.1 hlines with ⟨hline, hmore⟩
            have hname : ∀ c ∈ dataField, c ≠ '\n' ∧ c ≠ '\r' := by simp [dataField]
            have hfield : NoLine x (dataField ++ line) :=
              noLine_of_oneLine hdata (List.forall_mem_append.2 ⟨hname, hline⟩)
            rw [List.flatMap_cons, dataLine, ← List.append_assoc]
            exact (hfield.append hbreak).append (ihl hmore)
      have htext := hlines (breakLines text) fun l hl => oneLine_of_mem_breakLines hl
      exact (htext.append hbreak).append ih

end Base
end OpenRouter
