import OpenRouter.Backend.CurrentAuth
import OpenRouter.Gateway.Anthropic
import OpenRouter.Gateway.Middleware

/-!
# Credentials — the `Authorization` header on either side

`bearerToken` of the gateway and `_extract_bearer` of the backend, on one header value.  The gateway
wants the scheme spelled `Bearer`, the backend takes it in any case: `readsAlike_iff`.
-/

namespace OpenRouter
namespace Wire

open Backend (extractBearer isPySpace strip)
open Base (bytesOf)
open Gateway (Runtime bearerToken isUnicodeSpace plainRuntime sha256Hex trimSpace)

/-! ## Header values -/

/-- A header value of printable ASCII, tabs and spaces. -/
structure HeaderValue where
  text : String
  visible : ∀ c ∈ text.toList, c = '\t' ∨ 32 ≤ c.toNat ∧ c.toNat ≤ 126

/-- `sha256_lookup` of the backend, over the same hash function as the gateway's. -/
def sha256Lookup (rt : Runtime) (plaintext : String) : String :=
  rt.sha256Hex (bytesOf plaintext)

/-- Either both sides accept the header, with the same token and the same key to look up, or
neither does. -/
def ReadsAlike (rt : Runtime) (h : HeaderValue) : Prop :=
  ((bearerToken h.text).isSome ↔ (extractBearer (some h.text)).toOption.isSome) ∧
    ∀ tok plaintext, bearerToken h.text = some tok →
      extractBearer (some h.text) = .ok plaintext →
        tok = plaintext ∧ sha256Hex rt tok = sha256Lookup rt plaintext

/-- The header has the scheme of a bearer token, in any case. -/
def HasScheme (h : HeaderValue) : Prop :=
  "bearer ".toList <+: h.text.toList.map Char.toLower

/-! ## White space -/

/-- Of the characters of a header value both sides trim the same. -/
theorem isUnicodeSpace_eq_isPySpace {c : Char}
    (hc : c = '\t' ∨ 32 ≤ c.toNat ∧ c.toNat ≤ 126) : isUnicodeSpace c = isPySpace c := by
  rcases hc with rfl | ⟨hlow, hhigh⟩
  · decide
  · by_cases hblank : c = ' '
    · subst hblank
      decide
    · -- No other character from 32 to 126 is white space in either table.
      have hne : c.toNat ≠ 32 := fun h => hblank (Char.toNat_inj.1 h)
      have hgo : isUnicodeSpace c = false := by
        simp only [isUnicodeSpace, List.mem_cons, List.not_mem_nil, Bool.or_eq_false_iff,
          Bool.and_eq_false_iff, decide_eq_false_iff_not, or_false]
        omega
      have hpy : isPySpace c = false := by
        have hcodes : ∀ d ∈ ['\t', '\n', '\r', '\x0b', '\x0c', '\x1c', '\x1d', '\x1e', '\x1f',
            '\x85', '\xa0'], d.toNat < 32 ∨ 126 < d.toNat := by simp
        rw [isPySpace, decide_eq_false_iff_not]
        intro hmem
        rcases List.mem_cons.1 hmem with rfl | hrest
        · exact hblank rfl
        · have hcode := hcodes c hrest
          omega
      rw [hgo, hpy]

theorem dropWhile_congr {α : Type*} {p q : α → Bool} {l : List α} (h : ∀ a ∈ l, p a = q a) :
    l.dropWhile p = l.dropWhile q := by
  induction l with
  | nil =>
      rfl
  | cons a l ih =>
      have hrest := ih fun b hb => h b (List.mem_cons_of_mem a hb)
      rw [List.dropWhile_cons, List.dropWhile_cons, h a List.mem_cons_self, hrest]

theorem trimSpace_eq_strip {cs : List Char}
    (h : ∀ c ∈ cs, c = '\t' ∨ 32 ≤ c.toNat ∧ c.toNat ≤ 126) : trimSpace cs = strip cs := by
  have hsame : ∀ c ∈ cs, isUnicodeSpace c = isPySpace c :=
    fun c hc => isUnicodeSpace_eq_isPySpace (h c hc)
  unfold trimSpace strip
  rw [dropWhile_congr hsame]
  rw [dropWhile_congr]
  intro c hc
  exact hsame c ((List.dropWhile_suffix isPySpace).subset (List.mem_reverse.1 hc))

/-! ## The two readings -/

/-- With the gateway's spelling of the scheme both sides read the same token. -/
theorem readings_of_prefix {h : HeaderValue} (hspelled : "Bearer ".toList <+: h.text.toList) :
    ∃ token, bearerToken h.text = some token ∧ extractBearer (some h.text) = .ok token := by
  have hscheme : HasScheme h := by
    rcases hspelled with ⟨rest, hrest⟩
    exact ⟨rest.map Char.toLower, by rw [← hrest, List.map_append]; rfl⟩
  have htrim : trimSpace (h.text.toList.drop 7) = strip (h.text.toList.drop 7) :=
    trimSpace_eq_strip fun c hc => h.visible c (List.mem_of_mem_drop hc)
  -- `split(" ", 1)[1]` is what stands behind the seven characters of the scheme.
  refine ⟨String.ofList (strip (h.text.toList.drop 7)), ?_, if_pos hscheme⟩
  rw [bearerToken, if_pos hspelled, htrim]

/-- The two sides read a header value alike if and only if it has the scheme in the spelling that
the gateway wants, or not at all. -/
theorem readsAlike_iff (rt : Runtime) (h : HeaderValue) :
    ReadsAlike rt h ↔ (HasScheme h → "Bearer ".toList <+: h.text.toList) := by
  constructor
  · rintro ⟨haccept, -⟩ hscheme
    by_contra hspelling
    have hbackend : extractBearer (some h.text) = .ok _ := if_pos hscheme
    have hgateway : bearerToken h.text = none := if_neg hspelling
    rw [hbackend, hgateway] at haccept
    exact absurd (haccept.2 rfl) (by simp)
  · intro hspelling
    by_cases hspelled : "Bearer ".toList <+: h.text.toList
    · rcases readings_of_prefix hspelled with ⟨token, hgateway, hbackend⟩
      rw [ReadsAlike, hgateway, hbackend]
      refine ⟨by simp [Except.toOption], fun tok plaintext htok hplain => ?_⟩
      cases htok
      cases hplain
      exact ⟨rfl, rfl⟩
    -- Neither side finds a scheme.
    · have hscheme : ¬ HasScheme h := fun hs => hspelled (hspelling hs)
      have hgateway : bearerToken h.text = none := if_neg hspelled
      have hbackend : extractBearer (some h.text) = .error _ := if_neg hscheme
      rw [ReadsAlike, hgateway, hbackend]
      exact ⟨by simp [Except.toOption], nofun⟩

/-- A client that spells the scheme in lower case is known to the backend only. -/
theorem lower_case_scheme :
    let h : HeaderValue := { text := "bearer sk-or-v1-1", visible := by simp }
    bearerToken h.text = none ∧ extractBearer (some h.text) = .ok "sk-or-v1-1" ∧
      ¬ ReadsAlike plainRuntime h := by
  intro h
  have hgateway : bearerToken h.text = none := by decide +kernel
  have hbackend : extractBearer (some h.text) = .ok "sk-or-v1-1" := by decide +kernel
  refine ⟨hgateway, hbackend, fun halike => ?_⟩
  have haccept := halike.1
  rw [hgateway, hbackend] at haccept
  exact absurd (haccept.2 rfl) (by decide)

end Wire
end OpenRouter
