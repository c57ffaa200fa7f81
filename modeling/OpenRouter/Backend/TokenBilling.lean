import OpenRouter.Backend.Completions
import OpenRouter.Backend.Domain

/-!
# TokenBilling — what an answer costs

The token counts that `complete` returns, charged with `ModelPricing.cost`.  OpenAI counts the
cached tokens among the prompt tokens, Anthropic counts the prompt in three parts; `billsOnce_iff`
says for which answers every token is charged at one rate.
-/

namespace OpenRouter
namespace Backend
namespace Completions

/-- A `TokenCount` as `ModelPricing.cost` reads it. -/
def TokenCount.toCounts (t : TokenCount) : TokenCounts where
  input := t.input
  output := t.output
  cachedInput := t.cachedInput
  reasoning := t.reasoning

/-! ## Processed tokens -/

/-- The tokens of a request, each in one place. -/
structure Processed where
  /-- Prompt tokens that were not served from the cache. -/
  fresh : ℤ
  cached : ℤ
  output : ℤ

namespace Processed

/-- Every token at its rate. -/
def due (p : ModelPricing) (cachedRate : ℚ) (t : Processed) : ℚ :=
  (t.fresh * p.inputPerMillion + t.cached * cachedRate + t.output * p.outputPerMillion) / 1000000

/-- The same request with nothing in the cache. -/
def uncached (t : Processed) : Processed where
  fresh := t.fresh + t.cached
  cached := 0
  output := t.output

/-- A cache with a lower rate saves. -/
theorem due_le_due_uncached {p : ModelPricing} {cachedRate : ℚ}
    (h : cachedRate ≤ p.inputPerMillion) {t : Processed} (ht : 0 ≤ t.cached) :
    t.due p cachedRate ≤ t.uncached.due p cachedRate := by
  have hcached : (t.cached : ℚ) * cachedRate ≤ t.cached * p.inputPerMillion :=
    mul_le_mul_of_nonneg_left h (Int.cast_nonneg ht)
  rw [due, due, div_le_div_iff_of_pos_right (by norm_num), uncached, Int.cast_add, add_mul]
  simp only [Int.cast_zero, zero_mul, add_zero]
  linarith

end Processed

/-! ## Answers -/

/-- What a provider answers to `complete`. -/
inductive Answer
  | openAI (resp : OpenAIAdapter.ChatCompletion)
  | anthropic (resp : AnthropicAdapter.Message)

namespace Answer

def complete : Answer → Option UnifiedResponse
  | openAI resp => OpenAIAdapter.complete resp
  | anthropic resp => some (AnthropicAdapter.complete resp)

/-- What the provider has processed, by its report: `cached_tokens` are a part of the prompt
tokens, and the tokens that were read from the cache or written to it are none of the input
tokens. -/
def processed : Answer → Processed
  | openAI resp =>
      let cached := (resp.usage.promptTokensDetails.getD none).getD 0
      { fresh := resp.usage.promptTokens - cached
        cached := cached
        output := resp.usage.completionTokens }
  | anthropic resp =>
      { fresh := resp.usage.inputTokens + resp.usage.cacheCreationInputTokens.getD 0
        cached := resp.usage.cacheReadInputTokens.getD 0
        output := resp.usage.outputTokens }

/-- The prompt tokens that are charged twice, or if negative not at all. -/
def miscounted : Answer → ℤ
  | openAI resp => (resp.usage.promptTokensDetails.getD none).getD 0
  | anthropic resp => -(resp.usage.cacheCreationInputTokens.getD 0)

theorem cached_nonneg (answer : Answer) : 0 ≤ answer.processed.cached := by
  cases answer <;> exact Int.natCast_nonneg _

/-- The counts that `complete` returns. -/
theorem toCounts_of_complete {answer : Answer} {r : UnifiedResponse}
    (h : answer.complete = some r) :
    r.usage.toCounts =
      { input := answer.processed.fresh + answer.miscounted
        output := answer.processed.output
        cachedInput := answer.processed.cached } := by
  cases answer with
  | openAI resp =>
      have hcomplete : OpenAIAdapter.complete resp = some r := h
      unfold OpenAIAdapter.complete at hcomplete
      split at hcomplete
      · cases hcomplete
      · cases hcomplete
        simp [TokenCount.toCounts, OpenAIAdapter.tokenCount, processed, miscounted]
  | anthropic resp =>
      cases h
      simp [TokenCount.toCounts, AnthropicAdapter.complete, AnthropicAdapter.tokenCount, processed,
        miscounted]

end Answer

/-! ## Bills -/

/-- The cost is what is due, and no more than without the cache if that has the lower rate. -/
def BillsOnce (p : ModelPricing) (cachedRate : ℚ) (answer : Answer) (usage : TokenCount) : Prop :=
  ∃ cost, p.cost usage.toCounts = .ok cost ∧ cost.amount = answer.processed.due p cachedRate ∧
    (cachedRate ≤ p.inputPerMillion →
      cost.amount ≤ answer.processed.uncached.due p cachedRate)

variable {p : ModelPricing} {cachedRate : ℚ} {answer : Answer} {r : UnifiedResponse}

/-- What is charged beyond what is due are the miscounted tokens at the input rate. -/
theorem cost_of_complete (hrate : p.cachedInputPerMillion = some cachedRate)
    (h : answer.complete = some r) :
    p.cost r.usage.toCounts =
      Money.ofAmount (answer.processed.due p cachedRate +
        answer.miscounted * p.inputPerMillion / 1000000) := by
  have hcached : ModelPricing.optionalTerm answer.processed.cached (some cachedRate) =
      answer.processed.cached * cachedRate / 1000000 := by
    rw [eq_div_iff (by norm_num)]
    exact ModelPricing.optionalTerm_mul _ (some cachedRate)
  -- Neither adapter reports reasoning tokens.
  have hreasoning : ModelPricing.optionalTerm 0 p.reasoningPerMillion = 0 := by
    cases hreasoning : p.reasoningPerMillion <;> rfl
  rw [ModelPricing.cost, Answer.toCounts_of_complete h]
  simp only [hrate, hcached, hreasoning, Processed.due]
  congr 1
  push_cast
  ring

/-- Every token is charged once exactly when no cached token of OpenAI and no token that Anthropic
wrote to its cache has an input rate, and what is due is not negative. -/
theorem billsOnce_iff (hrate : p.cachedInputPerMillion = some cachedRate)
    (h : answer.complete = some r) :
    BillsOnce p cachedRate answer r.usage ↔
      (answer.miscounted = 0 ∨ p.inputPerMillion = 0) ∧ 0 ≤ answer.processed.due p cachedRate := by
  rw [BillsOnce, cost_of_complete hrate h]
  constructor
  · rintro ⟨cost, hcost, hdue, -⟩
    have hamount := Money.amount_of_ofAmount hcost
    refine ⟨?_, hdue ▸ cost.nonneg⟩
    -- What is charged and what is due differ by the miscounted tokens.
    have hextra : (answer.miscounted : ℚ) * p.inputPerMillion = 0 := by
      linarith
    rcases mul_eq_zero.1 hextra with hzero | hzero
    · exact .inl (Int.cast_eq_zero.1 hzero)
    · exact .inr hzero
  · rintro ⟨hmiscounted, hdue⟩
    have hextra : (answer.miscounted : ℚ) * p.inputPerMillion = 0 := by
      rcases hmiscounted with hzero | hzero <;> simp [hzero]
    rw [hextra, zero_div, add_zero, Money.ofAmount, dif_pos hdue]
    exact ⟨_, rfl, rfl, fun hlower =>
      Processed.due_le_due_uncached hlower answer.cached_nonneg⟩

/-- Ten dollars for a million tokens, one for a million cached ones. -/
def cachePricing : ModelPricing where
  inputPerMillion := 10
  outputPerMillion := 30
  cachedInputPerMillion := some 1

/-- A prompt of a million tokens of which the cache served this many. -/
def cachedPrompt (cached : ℕ) : Answer :=
  .openAI
    { id := "chatcmpl-1"
      model := "gpt-4o"
      choices := [{ content := some "ok", finishReason := some "stop", toolCalls := none }]
      usage :=
        { promptTokens := 1000000
          completionTokens := 0
          promptTokensDetails := some (some cached) } }

/-- Half of the prompt is from the cache, and it costs more than all of it at the full rate. -/
theorem cached_prompt_costs_more :
    ∃ r cost, (cachedPrompt 500000).complete = some r ∧
      cachePricing.cost r.usage.toCounts = .ok cost ∧ cost.amount = 21 / 2 ∧
      (cachedPrompt 500000).processed.due cachePricing 1 = 11 / 2 ∧
      (cachedPrompt 500000).processed.uncached.due cachePricing 1 = 10 ∧
      ¬ BillsOnce cachePricing 1 (cachedPrompt 500000) r.usage := by
  have hdue : (cachedPrompt 500000).processed.due cachePricing 1 = 11 / 2 := by
    norm_num [Processed.due, Answer.processed, cachedPrompt, cachePricing]
  have huncached : (cachedPrompt 500000).processed.uncached.due cachePricing 1 = 10 := by
    norm_num [Processed.due, Processed.uncached, Answer.processed, cachedPrompt, cachePricing]
  have hcost := cost_of_complete (p := cachePricing) rfl
    (show (cachedPrompt 500000).complete = some _ from rfl)
  have hamount : (cachedPrompt 500000).processed.due cachePricing 1 +
      (cachedPrompt 500000).miscounted * cachePricing.inputPerMillion / 1000000 = 21 / 2 := by
    rw [hdue]
    norm_num [Answer.miscounted, cachedPrompt, cachePricing]
  rw [hamount, Money.ofAmount, dif_pos (by norm_num)] at hcost
  refine ⟨_, _, rfl, hcost, rfl, hdue, huncached, ?_⟩
  rintro ⟨cost, hcost', hbilled, -⟩
  rw [hcost, Except.ok.injEq] at hcost'
  rw [← hcost', hdue] at hbilled
  norm_num at hbilled

theorem billsOnce_iff_uncached :
    ∃ r, (cachedPrompt 0).complete = some r ∧
      BillsOnce cachePricing 1 (cachedPrompt 0) r.usage := by
  refine ⟨_, rfl, (billsOnce_iff rfl rfl).2 ⟨.inl rfl, ?_⟩⟩
  norm_num [Processed.due, Answer.processed, cachedPrompt, cachePricing]

end Completions
end Backend
end OpenRouter
