import OpenRouter.Base.Regex

/-!
# Guardrails — the guards and the pipeline that runs them

`service/guardrails`: `pipeline.py` runs guards one after the other, each on the text that the one
before it leaves, and `guards.py` has the guards.  `run_append` says how a pipeline is put together
from two parts, and `piiRedactionGuard_leaves_none` what the redaction of personal data leaves.
-/

namespace OpenRouter
namespace Backend
namespace Guardrails

open Base

/-! ## The pipeline -/

structure GuardrailResult where
  blocked : Bool
  rule : Option String := none
  detail : Option String := none
  /-- If set, it replaces the text that the guard was given. -/
  redactedText : Option String := none
  deriving DecidableEq, Repr

namespace GuardrailResult

/-- `GuardrailResult.passed`. -/
def passed : GuardrailResult where
  blocked := false

/-- The text that the next guard is given. -/
def effective (r : GuardrailResult) (text : String) : String :=
  r.redactedText.getD text

end GuardrailResult

structure Guardrail where
  name : String
  check : String → GuardrailResult

/-- The end of `_run`, where no guard has blocked: the rewritten text, if it is another one. -/
def report (text current : String) : GuardrailResult :=
  if current ≠ text then { blocked := false, redactedText := some current } else .passed

/-- The loop of `_run`. -/
def runFrom (text : String) : String → List Guardrail → GuardrailResult
  | current, [] => report text current
  | current, guard :: guards =>
      let result := guard.check current
      if result.blocked then result else runFrom text (result.effective current) guards

/-- `GuardrailPipeline._run`. -/
def run (text : String) (guards : List Guardrail) : GuardrailResult :=
  runFrom text text guards

structure GuardrailPipeline where
  inputGuards : List Guardrail
  outputGuards : List Guardrail

namespace GuardrailPipeline

def checkInput (p : GuardrailPipeline) (text : String) : GuardrailResult :=
  run text p.inputGuards

def checkOutput (p : GuardrailPipeline) (text : String) : GuardrailResult :=
  run text p.outputGuards

end GuardrailPipeline

/-! ## Two pipelines in a row -/

/-- The rewrites of the guards, in order. -/
def rewrites (guards : List Guardrail) (text : String) : String :=
  guards.foldl (fun current guard => (guard.check current).effective current) text

theorem rewrites_append (xs ys : List Guardrail) (text : String) :
    rewrites (xs ++ ys) text = rewrites ys (rewrites xs text) :=
  List.foldl_append

/-- The result of the first guard that blocks, each on the text that the ones before it leave. -/
def blocking : String → List Guardrail → Option GuardrailResult
  | _, [] => none
  | current, guard :: guards =>
      let result := guard.check current
      if result.blocked then some result else blocking (result.effective current) guards

theorem report_blocked (text current : String) : (report text current).blocked = false := by
  unfold report
  split <;> rfl

theorem report_effective (text current : String) :
    (report text current).effective text = current := by
  by_cases h : current = text
  · simp [report, h, GuardrailResult.passed, GuardrailResult.effective]
  · simp [report, h, GuardrailResult.effective]

theorem report_redactedText_isSome (text current : String) :
    (report text current).redactedText.isSome ↔ current ≠ text := by
  by_cases h : current = text
  · simp [report, h, GuardrailResult.passed]
  · simp [report, h]

theorem blocked_of_blocking {current : String} {guards : List Guardrail} {r : GuardrailResult}
    (h : blocking current guards = some r) : r.blocked = true := by
  induction guards generalizing current with
  | nil => cases h
  | cons guard guards ih =>
      rw [blocking] at h
      cases hguard : (guard.check current).blocked with
      | true =>
          simp only [hguard, if_true, Option.some.injEq] at h
          exact h ▸ hguard
      | false =>
          simp only [hguard, Bool.false_eq_true, if_false] at h
          exact ih h

/-- A run is its blocking result, or else a report on all the rewrites. -/
theorem runFrom_eq (text current : String) (guards : List Guardrail) :
    runFrom text current guards =
      (blocking current guards).getD (report text (rewrites guards current)) := by
  induction guards generalizing current with
  | nil => rfl
  | cons guard guards ih =>
      -- The text that the run began with is looked at in the report only.
      cases hguard : (guard.check current).blocked with
      | true => simp [runFrom, blocking, hguard]
      | false =>
          simp only [runFrom, blocking, hguard, Bool.false_eq_true, if_false, ih]
          rfl

/-- The second part goes on with the text that the first leaves, unless that one blocks. -/
theorem blocking_append (current : String) (xs ys : List Guardrail) :
    blocking current (xs ++ ys) = (blocking current xs).or (blocking (rewrites xs current) ys) := by
  induction xs generalizing current with
  | nil => rfl
  | cons guard guards ih =>
      rw [List.cons_append]
      cases hguard : (guard.check current).blocked with
      | true => simp [blocking, hguard]
      | false =>
          simp only [blocking, hguard, Bool.false_eq_true, if_false, ih]
          rfl

/-- The guard that blocks first, if there is one, is what a run results in. -/
theorem blocking_eq_run (text : String) (guards : List Guardrail) :
    blocking text guards =
      if (run text guards).blocked then some (run text guards) else none := by
  rw [run, runFrom_eq]
  cases hblocking : blocking text guards with
  | none => rw [Option.getD_none, report_blocked, if_neg Bool.false_ne_true]
  | some r => rw [Option.getD_some, if_pos (blocked_of_blocking hblocking)]

/-- Running two lists of guards in a row: the first part blocks with its own result; else the
second part blocks with its own result, on the text that the first part leaves; else the text is
rewritten by the one and then by the other, and the result has a text exactly if it is not the
one that came in. -/
theorem run_append (xs ys : List Guardrail) (text : String) :
    let first := run text xs
    let second := run (first.effective text) ys
    let whole := run text (xs ++ ys)
    (blocking text (xs ++ ys) = if whole.blocked then some whole else none) ∧
      (whole.blocked = (first.blocked || second.blocked)) ∧
      (first.blocked = true → whole = first) ∧
      (first.blocked = false → second.blocked = true → whole = second) ∧
      (whole.blocked = false →
        whole.effective text = second.effective (first.effective text) ∧
          whole.effective text = rewrites (xs ++ ys) text ∧
          (whole.redactedText.isSome ↔ whole.effective text ≠ text)) := by
  intro first second whole
  refine ⟨blocking_eq_run text (xs ++ ys), ?_⟩
  have hfirst : first = (blocking text xs).getD (report text (rewrites xs text)) :=
    runFrom_eq text text xs
  have hwhole : whole = ((blocking text xs).or (blocking (rewrites xs text) ys)).getD
      (report text (rewrites (xs ++ ys) text)) := by
    rw [← blocking_append]
    exact runFrom_eq text text (xs ++ ys)
  cases hxs : blocking text xs with
  | some r =>
      -- The first part blocks, and the whole with it.
      have hblocked : r.blocked = true := blocked_of_blocking hxs
      rw [hxs] at hfirst hwhole
      simp only [Option.getD_some, Option.some_or] at hfirst hwhole
      simp [hfirst, hwhole, hblocked]
  | none =>
      rw [hxs] at hfirst hwhole
      simp only [Option.getD_none, Option.none_or] at hfirst hwhole
      have hleft : first.effective text = rewrites xs text := by
        rw [hfirst, report_effective]
      have hsecond : second = (blocking (rewrites xs text) ys).getD
          (report (rewrites xs text) (rewrites ys (rewrites xs text))) := by
        rw [← hleft]
        exact runFrom_eq _ _ ys
      have hpassed : first.blocked = false := by
        rw [hfirst, report_blocked]
      cases hys : blocking (rewrites xs text) ys with
      | some r =>
          -- The second part blocks, on what the first has left.
          have hblocked : r.blocked = true := blocked_of_blocking hys
          rw [hys, Option.getD_some] at hsecond hwhole
          simp [hsecond, hwhole, hpassed, hblocked]
      | none =>
          -- Nothing blocks: both runs report, the whole one against the text that came in.
          rw [hys, Option.getD_none] at hsecond hwhole
          have hreported : whole.effective text = rewrites (xs ++ ys) text := by
            rw [hwhole, report_effective]
          refine ⟨?_, ?_, ?_, fun _ => ⟨?_, hreported, ?_⟩⟩
          · rw [hwhole, hpassed, hsecond, report_blocked, report_blocked, Bool.or_self]
          · simp [hpassed]
          · simp [hsecond, report_blocked]
          · calc
              whole.effective text = rewrites ys (rewrites xs text) :=
                hreported.trans (rewrites_append xs ys text)
              _ = second.effective (rewrites xs text) := by rw [hsecond, report_effective]
              _ = second.effective (first.effective text) := by rw [hleft]
          · rw [hreported, hwhole]
            exact report_redactedText_isSome text _

/-! ## Token limit and prompt injection -/

/-- `TokenLimitGuard(max_tokens)`. -/
def tokenLimitGuard (maxTokens : ℤ) : Guardrail where
  name := "token_limit"
  check payload :=
    let approx := payload.length / 4
    if maxTokens < approx then
      { blocked := true
        rule := some "token_limit"
        detail := some s!"~{approx} tokens exceeds limit {maxTokens}" }
    else .passed

/-- `PromptInjectionGuard._SUSPICIOUS_PHRASES`. -/
def suspiciousPhrases : List String :=
  ["ignore previous instructions", "ignore all prior", "you are now", "system prompt"]

/-- `PromptInjectionGuard`, for the `str.lower` of the platform. -/
def promptInjectionGuard (lower : String → String) : Guardrail where
  name := "prompt_injection"
  check payload :=
    match suspiciousPhrases.find? fun phrase => phrase.toList <:+: (lower payload).toList with
    | some phrase =>
        { blocked := true
          rule := some "prompt_injection"
          detail := some ("Suspicious phrase: '" ++ phrase ++ "'") }
    | none => .passed

/-! ## Personal data -/

/-- The classes of `re`: which characters they hold beyond ASCII is left to the Unicode tables. -/
structure CharClasses where
  /-- `\w`. -/
  word : Char → Bool
  /-- `\d`. -/
  digit : Char → Bool
  /-- `\s`. -/
  space : Char → Bool
  word_ascii : ∀ c : Char, c.toNat < 128 → word c = (c.isAlphanum || c == '_')
  digit_ascii : ∀ c : Char, c.toNat < 128 → digit c = c.isDigit
  space_ascii : ∀ c : Char, c.toNat < 128 →
    space c = decide (c ∈ [' ', '\t', '\n', '\r', '\x0b', '\x0c', '\x1c', '\x1d', '\x1e', '\x1f'])

/-- Tables without a character beyond ASCII. -/
def CharClasses.ascii : CharClasses where
  word c := c.isAlphanum || c == '_'
  digit c := c.isDigit
  space c := c ∈ [' ', '\t', '\n', '\r', '\x0b', '\x0c', '\x1c', '\x1d', '\x1e', '\x1f']
  word_ascii _ _ := rfl
  digit_ascii _ _ := rfl
  space_ascii _ _ := rfl

variable (classes : CharClasses)

/-- `[\w.+-]+@[\w-]+\.[\w.-]+`. -/
def emailRe : Pattern Char where
  regex :=
    .seq (.atLeast 1 fun c => classes.word c || c ∈ ['.', '+', '-'])
      (.seq (.set (· == '@'))
        (.seq (.atLeast 1 fun c => classes.word c || c == '-')
          (.seq (.set (· == '.'))
            (.atLeast 1 fun c => classes.word c || c ∈ ['.', '-']))))
  proper := Nat.add_pos_left Nat.one_pos _

/-- `\+?\d[\d\s().-]{7,}\d`. -/
def phoneRe : Pattern Char where
  regex :=
    .seq (.opt (.set (· == '+')))
      (.seq (.set classes.digit)
        (.seq (.atLeast 7 fun c => classes.digit c || classes.space c || c ∈ ['(', ')', '.', '-'])
          (.set classes.digit)))
  proper := Nat.add_pos_right _ (Nat.add_pos_left Nat.one_pos _)

/-- The two substitutions of `PIIRedactionGuard.check`. -/
def redact (payload : String) : String :=
  let redacted := (emailRe classes).sub "[EMAIL]".toList payload.toList
  String.ofList ((phoneRe classes).sub "[PHONE]".toList redacted)

example : redact .ascii "ravi@example.com, +1 (555) 010-9999 or 12-34" =
    "[EMAIL], [PHONE] or 12-34" := by decide +kernel

/-- `PIIRedactionGuard`. -/
def piiRedactionGuard : Guardrail where
  name := "pii_redaction"
  check payload :=
    let redacted := redact classes payload
    if redacted = payload then .passed else { blocked := false, redactedText := some redacted }

variable {classes}

theorem piiRedactionGuard_effective (payload : String) :
    ((piiRedactionGuard classes).check payload).effective payload = redact classes payload := by
  by_cases h : redact classes payload = payload
  · simp [piiRedactionGuard, h, GuardrailResult.passed, GuardrailResult.effective]
  · simp [piiRedactionGuard, h, GuardrailResult.effective]

theorem email_needs_at {w : List Char} (h : (emailRe classes).regex.Matches w) :
    ∃ c ∈ w, (c == '@') = true := by
  rcases h with ⟨x, y, rfl, -, z, v, rfl, ⟨c, rfl, hc⟩, -⟩
  exact ⟨c, by simp, hc⟩

theorem phone_needs_digit {w : List Char} (h : (phoneRe classes).regex.Matches w) :
    ∃ c ∈ w, classes.digit c = true := by
  rcases h with ⟨x, y, rfl, -, z, v, rfl, ⟨c, rfl, hc⟩, -⟩
  exact ⟨c, by simp, hc⟩

theorem word_bracket {c : Char} (hc : c = '[' ∨ c = ']') : classes.word c = false := by
  rcases hc with rfl | rfl
  · exact (classes.word_ascii '[' (by decide)).trans (by decide)
  · exact (classes.word_ascii ']' (by decide)).trans (by decide)

/-- The brackets of the placeholders are in neither alphabet. -/
theorem email_alphabet_bracket {c : Char} (hc : c = '[' ∨ c = ']') :
    (emailRe classes).regex.alphabet c = false := by
  have hword : classes.word c = false := word_bracket hc
  rcases hc with rfl | rfl <;> simp [emailRe, Regex.alphabet, hword]

theorem phone_alphabet_bracket {c : Char} (hc : c = '[' ∨ c = ']') :
    (phoneRe classes).regex.alphabet c = false := by
  rcases hc with rfl | rfl <;>
    simp [phoneRe, Regex.alphabet, classes.digit_ascii, classes.space_ascii]

/-- What the guard leaves, whether it has rewritten the text or not, has no e-mail address and no
telephone number in it, and the guard passes it as it is. -/
theorem piiRedactionGuard_leaves_none (classes : CharClasses) (payload : String) :
    let left := ((piiRedactionGuard classes).check payload).effective payload
    (emailRe classes).regex.Free left.toList ∧ (phoneRe classes).regex.Free left.toList ∧
      (piiRedactionGuard classes).check left = .passed := by
  intro left
  have hleft : left.toList = (phoneRe classes).sub ('[' :: ("PHONE".toList ++ [']']))
      ((emailRe classes).sub ('[' :: ("EMAIL".toList ++ [']'])) payload.toList) := by
    rw [show left = redact classes payload from piiRedactionGuard_effective payload]
    exact String.toList_ofList
  -- The second substitution must not make an address out of its placeholder.
  have hword : (emailRe classes).regex.Free "PHONE".toList :=
    Regex.free_of_lacks (fun _ => email_needs_at) rfl
  have hemail : (emailRe classes).regex.Free left.toList := by
    rw [hleft]
    refine Pattern.free_sub_of_free (Pattern.free_sub ?_ ?_ ?_) hword ?_ ?_
    · exact Regex.free_of_lacks (fun _ => email_needs_at) rfl
    all_goals exact email_alphabet_bracket (by decide)
  have hphone : (phoneRe classes).regex.Free left.toList := by
    rw [hleft]
    refine Pattern.free_sub ?_ (phone_alphabet_bracket (by decide))
      (phone_alphabet_bracket (by decide))
    refine Regex.free_of_lacks (fun _ => phone_needs_digit) ?_
    simp [classes.digit_ascii]
  have hsame : redact classes left = left := by
    rw [redact, Pattern.sub_eq_self hemail, Pattern.sub_eq_self hphone, String.ofList_toList]
  exact ⟨hemail, hphone, by simp [piiRedactionGuard, hsame]⟩

end Guardrails
end Backend
end OpenRouter
