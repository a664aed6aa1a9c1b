import AgentOrchestration.Value

/-!
# LLM requests, results and their cost

Model of the request and result of `LLMExecutor` and of `CostEngine`, which prices the
tokens of a response. Amounts of money are non-negative rationals.
-/

namespace AgentOrchestration.Llm

set_option autoImplicit false

inductive LLMTaskType where
  | intentSelection
  | toolSelection
  | paramExtraction
  | slotFilling
  | clarification
  | responseRender
  | memoryExtraction
  | fallbackResponse
  | memoryContentSummarize
  deriving DecidableEq

/-- `LLMRequest`, with the fields that are read here. -/
structure LLMRequest where
  prompt : String := ""
  userMessage : Option String := none
  userPayload : Fields := []
  inputPayload : Fields := []
  inputSchema : Fields := []
  outputSchema : Fields := []
  modelAlias : String
  maxTokens : Option ℕ := none
  maxLatencyMs : Option ℕ := none
  maxCostUsd : Option ℚ≥0 := none
  promptVersion : Option ℕ := none
  promptFrozenHash : Option String := none
  taskType : Option LLMTaskType := none

structure LLMResult where
  output : Value
  tokenUsage : List (String × ℕ) := []
  costUsd : Option ℚ≥0 := none
  latencyMs : Option ℚ≥0 := none

/-- The prices of a model, per thousand tokens. -/
structure LLMPricing where
  inputCostPer1k : ℚ≥0
  outputCostPer1k : ℚ≥0

/-- `CostEngine`: the active prices, and rounding to six decimals. -/
structure CostEngine where
  getActivePricing : String → String → Option LLMPricing
  round6 : ℚ≥0 → ℚ≥0

def tokens (tokenUsage : List (String × ℕ)) (key : String) : ℕ := (tokenUsage.lookup key).getD 0

/-- `compute_cost`, which fails when the model has no active price. -/
def CostEngine.computeCost (engine : CostEngine) (provider providerModel : String)
    (tokenUsage : List (String × ℕ)) : Option ℚ≥0 :=
  (engine.getActivePricing provider providerModel).map fun pricing =>
    engine.round6 ((tokens tokenUsage "input_tokens" : ℚ≥0) / 1000 * pricing.inputCostPer1k +
      (tokens tokenUsage "output_tokens" : ℚ≥0) / 1000 * pricing.outputCostPer1k)

end AgentOrchestration.Llm
