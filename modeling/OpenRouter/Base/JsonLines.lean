import OpenRouter.Base.JsonTokens
import OpenRouter.Base.Utf8

/-!
# JsonLines — how the lines of a JSON text begin

A line feed of a JSON text stands between two tokens, never inside of one.  So every line of the
text begins with what may begin a token (`fits_of_parse`), and in bytes no line begins with a `d` or
an `e` (`noFieldLine_encode`), as the fields of an event stream do.
-/

namespace OpenRouter
namespace Base

/-- The text and every line of it begin with a token or a space. -/
def Fits (cs : List Char) : Prop :=
  List.IsChain (fun b c => b = '\n' → startsToken c = true) ('\n' :: cs)

theorem fits_nil : Fits [] :=
  List.isChain_singleton _

theorem Fits.append {as bs : List Char} (has : Fits as) (hbs : Fits bs) : Fits (as ++ bs) := by
  refine List.isChain_append.2 ⟨has, hbs.tail, ?_⟩
  intro b _ c hc _
  cases bs with
  | nil => cases hc
  | cons d bs =>
      cases hc
      exact (List.isChain_cons_cons.1 hbs).1 rfl

/-- A token without a line feed. -/
theorem fits_of_clean {c : Char} {cs : List Char} (hc : startsToken c = true)
    (hclean : ∀ d ∈ c :: cs, d ≠ '\n') : Fits (c :: cs) := by
  refine List.isChain_cons_cons.2 ⟨fun _ => hc, ?_⟩
  refine List.Pairwise.isChain
    (List.Pairwise.imp_of_mem ?_ (List.pairwise_of_forall fun _ _ => trivial))
  intro b d hb _ _ hfeed
  exact absurd hfeed (hclean b hb)

theorem fits_singleton {c : Char} (hc : startsToken c = true) : Fits [c] :=
  List.isChain_cons_cons.2 ⟨fun _ => hc, List.isChain_singleton _⟩

theorem fits_spaces {cs : List Char} (h : ∀ c ∈ cs, isSpace c = true) : Fits cs := by
  induction cs with
  | nil => exact fits_nil
  | cons c cs ih =>
      have hc : startsToken c = true := by
        simp [startsToken, h c List.mem_cons_self]
      exact (fits_singleton hc).append (ih fun d hd => h d (List.mem_cons_of_mem c hd))

theorem tokenwise_fits : Tokenwise Fits where
  append := Fits.append
  spaces := fits_spaces
  token hc hclean := by
    refine fits_of_clean hc ?_
    rintro d hd rfl
    exact absurd (hclean _ hd) (by decide)

/-- Every line of a JSON text begins with a token or a space. -/
theorem fits_of_parse {cs : List Char} {j : Json} (h : parse cs = some j) : Fits cs :=
  of_parse tokenwise_fits h

/-! ## In bytes -/

/-- No line begins with the letter of `data:` or of `event:`. -/
def NoFieldLine (bs : Bytes) : Prop :=
  List.IsChain (fun b c => b = 10 → c ≠ 100 ∧ c ≠ 101) (10 :: bs)

/-- A character is one byte of its own, or bytes that are no character. -/
theorem encodeChar_cases (c : Char) :
    (c.toNat < 128 ∧ String.utf8EncodeChar c = [UInt8.ofNat c.toNat]) ∨
      ∀ b ∈ String.utf8EncodeChar c, 128 ≤ b.toNat := by
  have hv : c.val.toNat = c.toNat := rfl
  simp only [String.utf8EncodeChar, hv]
  split
  · rename_i hone
    exact .inl ⟨by omega, rfl⟩
  · have hbound : c.toNat < 0x110000 := by
      have hvalid : c.toNat < 0xD800 ∨ 0xDFFF < c.toNat ∧ c.toNat < 0x110000 := c.valid
      omega
    refine .inr ?_
    -- Every byte of two and more has its top bit set.
    repeat' split
    all_goals
      simp only [List.forall_mem_cons, List.not_mem_nil, false_imp_iff, implies_true, and_true,
        UInt8.toNat_ofNat']
      omega

/-- An ASCII byte is the whole of its character. -/
theorem toNat_of_mem_encodeChar {c : Char} {b : UInt8} (hb : b.toNat < 128)
    (h : b ∈ String.utf8EncodeChar c) : c.toNat = b.toNat := by
  rcases encodeChar_cases c with ⟨hone, hbytes⟩ | hhigh
  · rw [hbytes, List.mem_singleton] at h
    rw [h, UInt8.toNat_ofNat', Nat.mod_eq_of_lt (by omega)]
  · have hbyte := hhigh b h
    omega

/-- In bytes, only the character zero holds the byte zero. -/
theorem eq_nul_of_mem_encodeChar {c : Char} (h : 0 ∈ String.utf8EncodeChar c) : c = '\x00' :=
  Char.ext (UInt32.toNat_inj.1 (toNat_of_mem_encodeChar (by decide) h))

/-- A byte zero is read as the character zero, wherever it stands. -/
theorem nul_mem_decode {bs : Bytes} (h : 0 ∈ bs) : '\x00' ∈ decode bs := by
  -- The induction is on the length: a character takes several bytes at once.
  induction hn : bs.length using Nat.strong_induction_on generalizing bs with
  | _ n ih =>
      cases bs with
      | nil => cases h
      | cons b bs =>
          cases hrune : decodeRune (b :: bs) with
          | none =>
              rw [decode, decodeFrom, hrune]
              have hb : b ≠ 0 := by
                rintro rfl
                have hnul : decodeRune (0 :: bs) = some '\x00' := decodeRune_encodeChar '\x00' bs
                rw [hrune] at hnul
                cases hnul
              have hrest : 0 ∈ bs := (List.mem_cons.1 h).resolve_left (Ne.symm hb)
              exact List.mem_cons_of_mem _ (ih bs.length (by simp [← hn]) hrest rfl)
          | some c =>
              rcases exists_of_decodeRune hrune with ⟨rest, hbytes⟩
              rw [decode_of_rune hrune hbytes]
              rw [hbytes] at h hn
              rcases List.mem_append.1 h with hhere | hlater
              · rw [eq_nul_of_mem_encodeChar hhere]
                exact List.mem_cons_self
              · have hlen : (String.utf8EncodeChar c).length = c.utf8Size :=
                  String.length_utf8EncodeChar c
                have hpos := c.utf8Size_pos
                refine List.mem_cons_of_mem _ (ih rest.length ?_ hlater rfl)
                rw [← hn, List.length_append]
                omega

/-- In bytes, only the line feed ends in the byte ten. -/
theorem eq_feed_of_getLast {c : Char} (h : (String.utf8EncodeChar c).getLast? = some 10) :
    c = '\n' :=
  Char.ext (UInt32.toNat_inj.1 (toNat_of_mem_encodeChar (by decide) (List.mem_of_getLast? h)))

/-- A text without control characters has no line feed in bytes either. -/
theorem not_mem_encode_of_printable {cs : List Char} (h : Printable cs) : 10 ∉ encode cs := by
  intro hmem
  rcases List.mem_flatMap.1 hmem with ⟨c, hc, hb⟩
  have hfeed : c.toNat = 10 := toNat_of_mem_encodeChar (by decide) hb
  have hprintable := h c hc
  omega

theorem encodeChar_ne_nil (c : Char) : String.utf8EncodeChar c ≠ [] := by
  intro hnil
  have hlen : (String.utf8EncodeChar c).length = c.utf8Size := String.length_utf8EncodeChar c
  have hpos := c.utf8Size_pos
  rw [hnil, List.length_nil] at hlen
  omega

/-! ## How lines begin -/

/-- No line begins with the character; it is line feeds that end lines here. -/
def NoLine (x : Char) (cs : List Char) : Prop :=
  List.IsChain (fun b c => b = '\n' → c ≠ x) ('\n' :: cs)

/-- The lines of a text in JSON begin as tokens do. -/
theorem noLine_of_fits {x : Char} (hx : startsToken x = false) {cs : List Char} (h : Fits cs) :
    NoLine x cs := by
  refine h.imp fun b c hstarts hfeed => ?_
  rintro rfl
  rw [hstarts hfeed] at hx
  cases hx

/-- The lines in bytes begin as those in characters. -/
theorem noLine_encode {x : Char} (hx : x.toNat < 128) {cs : List Char} (h : NoLine x cs) :
    List.IsChain (fun b d : UInt8 => b = 10 → d ≠ UInt8.ofNat x.toNat) (10 :: encode cs) := by
  suffices hchars : ∀ cs : List Char, List.IsChain (fun b c => b = '\n' → c ≠ x) cs →
      List.IsChain (fun b d : UInt8 => b = 10 → d ≠ UInt8.ofNat x.toNat) (encode cs) from
    hchars ('\n' :: cs) h
  have hinside : ∀ c : Char, List.IsChain (fun b d : UInt8 => b = 10 → d ≠ UInt8.ofNat x.toNat)
      (String.utf8EncodeChar c) := by
    intro c
    rcases encodeChar_cases c with ⟨-, hbytes⟩ | hhigh
    · rw [hbytes]
      exact List.isChain_singleton _
    · refine List.Pairwise.isChain
        (List.Pairwise.imp_of_mem ?_ (List.pairwise_of_forall fun _ _ => trivial))
      rintro b d hb _ _ rfl
      exact absurd (hhigh 10 hb) (by decide)
  have hvalue : (UInt8.ofNat x.toNat).toNat = x.toNat := by
    rw [UInt8.toNat_ofNat', Nat.mod_eq_of_lt (by omega)]
  intro cs hcs
  induction cs with
  | nil => exact List.isChain_nil
  | cons c cs ih =>
      rw [encode, List.flatMap_cons]
      refine List.isChain_append.2 ⟨hinside c, ih hcs.tail, ?_⟩
      intro b hb d hd hfeed
      cases cs with
      | nil => cases hd
      | cons c' cs =>
          have hne : c' ≠ x :=
            (List.isChain_cons_cons.1 hcs).1 (eq_feed_of_getLast (hfeed ▸ hb))
          rw [List.flatMap_cons, List.head?_append_of_ne_nil _ (encodeChar_ne_nil c')] at hd
          rintro rfl
          have hascii : (UInt8.ofNat x.toNat).toNat < 128 := hvalue.trans_lt hx
          have hsame := toNat_of_mem_encodeChar hascii (List.mem_of_head? hd)
          exact hne (Char.ext (UInt32.toNat_inj.1 (hsame.trans hvalue)))

theorem noFieldLine_encode {cs : List Char} (h : Fits cs) : NoFieldLine (encode cs) := by
  have hdata := noLine_encode (x := 'd') (by decide) (noLine_of_fits (by decide) h)
  have hevent := noLine_encode (x := 'e') (by decide) (noLine_of_fits (by decide) h)
  refine List.isChain_iff_getElem.2 fun i hi hfeed => ⟨?_, ?_⟩
  · exact List.isChain_iff_getElem.1 hdata i hi hfeed
  · exact List.isChain_iff_getElem.1 hevent i hi hfeed

end Base
end OpenRouter
