import Mathlib.Tactic.SplitIfs

/-!
# The tokens of a tiered price

A tiered price is an expression over token counts. It may have a variable of its own for cached,
image or audio tokens, and `BuildTieredTokenParams` takes those tokens out of the general count `P`
or `C`, so that no token is priced twice.

`tokens_priced_once_iff`: the prompt tokens of a Claude report leave out the cached tokens. What is
left out is never put into `P`, so it must have a variable of its own.
-/

namespace Yunbay

/-- The columns of `dto.Usage` that the price looks at. -/
structure Usage where
  promptTokens : Int
  completionTokens : Int
  /-- `PromptTokensDetails.CachedTokens` -/
  cachedTokens : Int := 0
  /-- `PromptTokensDetails.CachedCreationTokens` -/
  cachedCreationTokens : Int := 0
  imageTokens : Int := 0
  audioTokens : Int := 0
  /-- `CompletionTokenDetails.ImageTokens` -/
  outputImageTokens : Int := 0
  outputAudioTokens : Int := 0
  claudeCacheCreation5mTokens : Int := 0
  claudeCacheCreation1hTokens : Int := 0

/-- The variables an expression may use for a part of the tokens. -/
inductive TokenVar where
  | cr | cc | cc1h | img | ai | imgO | ao
  deriving DecidableEq

/-- The variables of an expression. -/
structure TokenParams where
  p : Int
  c : Int
  len : Int
  cr : Int
  cc : Int
  cc1h : Int
  img : Int
  imgO : Int
  ai : Int
  ao : Int

/-- The tokens of a variable, if the expression uses it. -/
def priced (used : Bool) (tokens : Int) : Int := if used then tokens else 0

def buildTieredTokenParams (usage : Usage) (isClaudeUsageSemantic : Bool)
    (usedVars : TokenVar → Bool) : TokenParams :=
  let cr := usage.cachedTokens
  let cc5m := if isClaudeUsageSemantic then usage.claudeCacheCreation5mTokens
    else usage.cachedCreationTokens
  let cc1h := if isClaudeUsageSemantic then usage.claudeCacheCreation1hTokens else 0
  let inputLen := if isClaudeUsageSemantic then usage.promptTokens + cr + cc5m + cc1h
    else usage.promptTokens
  let p := if isClaudeUsageSemantic then usage.promptTokens
    else usage.promptTokens - priced (usedVars .cr) cr - priced (usedVars .cc) cc5m -
      priced (usedVars .cc1h) cc1h - priced (usedVars .img) usage.imageTokens -
      priced (usedVars .ai) usage.audioTokens
  let c := if isClaudeUsageSemantic then usage.completionTokens
    else usage.completionTokens - priced (usedVars .imgO) usage.outputImageTokens -
      priced (usedVars .ao) usage.outputAudioTokens
  { p := if p < 0 then 0 else p
    c := if c < 0 then 0 else c
    len := inputLen
    cr := cr
    cc := cc5m
    cc1h := cc1h
    img := usage.imageTokens
    imgO := usage.outputImageTokens
    ai := usage.audioTokens
    ao := usage.outputAudioTokens }

def normalizeCacheCreationSplit (totalTokens tokens5m tokens1h : Int) : Int × Int :=
  (tokens5m + max (totalTokens - tokens5m - tokens1h) 0, tokens1h)

namespace Usage

/-- All cache-creation tokens of a report, whether it splits them by lifetime or not. -/
def cacheCreation (usage : Usage) : Int :=
  let split := normalizeCacheCreationSplit usage.cachedCreationTokens
    usage.claudeCacheCreation5mTokens usage.claudeCacheCreation1hTokens
  split.1 + split.2

/-- The total number of input tokens that a report stands for. -/
def inputTokens (usage : Usage) (isClaudeUsageSemantic : Bool) : Int :=
  if isClaudeUsageSemantic then usage.promptTokens + usage.cachedTokens + usage.cacheCreation
  else usage.promptTokens

/-- No part of the tokens is negative, and in the first way to report the parts of the input are
parts of the prompt tokens. -/
structure WellFormed (usage : Usage) (isClaudeUsageSemantic : Bool) : Prop where
  cached : 0 ≤ usage.cachedTokens
  creation : 0 ≤ usage.cachedCreationTokens
  image : 0 ≤ usage.imageTokens
  audio : 0 ≤ usage.audioTokens
  outputImage : 0 ≤ usage.outputImageTokens
  outputAudio : 0 ≤ usage.outputAudioTokens
  creation5m : 0 ≤ usage.claudeCacheCreation5mTokens
  creation1h : 0 ≤ usage.claudeCacheCreation1hTokens
  parts_le : isClaudeUsageSemantic = false → usage.cachedTokens + usage.cachedCreationTokens +
    usage.imageTokens + usage.audioTokens ≤ usage.promptTokens

end Usage

/-- Every token of the report is in exactly one of the counts that the expression uses. -/
structure PricedOnce (usage : Usage) (isClaudeUsageSemantic : Bool) (usedVars : TokenVar → Bool)
    (params : TokenParams) : Prop where
  input : params.p + priced (usedVars .cr) params.cr + priced (usedVars .cc) params.cc +
    priced (usedVars .cc1h) params.cc1h + priced (usedVars .img) params.img +
    priced (usedVars .ai) params.ai = usage.inputTokens isClaudeUsageSemantic
  output : params.c + priced (usedVars .imgO) params.imgO + priced (usedVars .ao) params.ao =
    usage.completionTokens
  len : params.len = usage.inputTokens isClaudeUsageSemantic

/-- The separately priced output tokens fit into the completion tokens. In a report of Claude, they
are none, the cache-creation tokens are split by lifetime, and the cached tokens without a variable
are made up for by the image and audio tokens that have one. -/
def Usage.Accounted (usage : Usage) (isClaudeUsageSemantic : Bool) (usedVars : TokenVar → Bool) :
    Prop :=
  let output := priced (usedVars .imgO) usage.outputImageTokens +
    priced (usedVars .ao) usage.outputAudioTokens
  if isClaudeUsageSemantic then
    0 ≤ usage.completionTokens ∧ output = 0 ∧
    usage.cachedCreationTokens ≤
      usage.claudeCacheCreation5mTokens + usage.claudeCacheCreation1hTokens ∧
    max usage.promptTokens 0 + priced (usedVars .img) usage.imageTokens +
        priced (usedVars .ai) usage.audioTokens =
      usage.promptTokens + priced (!usedVars .cr) usage.cachedTokens +
        priced (!usedVars .cc) usage.claudeCacheCreation5mTokens +
        priced (!usedVars .cc1h) usage.claudeCacheCreation1hTokens
  else output ≤ usage.completionTokens

section Priced

variable (used : Bool) {tokens : Int}

lemma priced_nonneg (h : 0 ≤ tokens) : 0 ≤ priced used tokens := by
  cases used
  · exact Int.le_refl 0
  · exact h

lemma priced_le (h : 0 ≤ tokens) : priced used tokens ≤ tokens := by
  cases used
  · exact h
  · exact Int.le_refl tokens

lemma priced_not (tokens : Int) : priced (!used) tokens = tokens - priced used tokens := by
  cases used <;> simp [priced]

end Priced

variable {usage : Usage} {usedVars : TokenVar → Bool}

/-- The first way to report: the parts of the input are taken out of the prompt tokens, so only the
output can go wrong. -/
lemma pricedOnce_openai_iff (h : usage.WellFormed false) :
    PricedOnce usage false usedVars (buildTieredTokenParams usage false usedVars) ↔
      usage.Accounted false usedVars := by
  have hcr := priced_le (usedVars .cr) h.cached
  have hcc := priced_le (usedVars .cc) h.creation
  have himg := priced_le (usedVars .img) h.image
  have hai := priced_le (usedVars .ai) h.audio
  have hparts := h.parts_le rfl
  have hzero : priced (usedVars .cc1h) 0 = 0 := by simp [priced]
  constructor
  · rintro ⟨-, houtput, -⟩
    simp only [buildTieredTokenParams, Usage.Accounted, Bool.false_eq_true, if_false] at houtput ⊢
    split_ifs at houtput <;> omega
  · intro haccounted
    simp only [Usage.Accounted, Bool.false_eq_true, if_false] at haccounted
    constructor <;>
      simp only [buildTieredTokenParams, Usage.inputTokens, Bool.false_eq_true, if_false, hzero] <;>
      split_ifs <;> omega

/-- A report of Claude: nothing is taken out of the prompt tokens, and nothing is put in. -/
lemma pricedOnce_claude_iff (h : usage.WellFormed true) :
    PricedOnce usage true usedVars (buildTieredTokenParams usage true usedVars) ↔
      usage.Accounted true usedVars := by
  have himgO := priced_nonneg (usedVars .imgO) h.outputImage
  have hao := priced_nonneg (usedVars .ao) h.outputAudio
  have htotal : usage.inputTokens true = usage.promptTokens + usage.cachedTokens +
      (usage.claudeCacheCreation5mTokens + max (usage.cachedCreationTokens -
        usage.claudeCacheCreation5mTokens - usage.claudeCacheCreation1hTokens) 0 +
        usage.claudeCacheCreation1hTokens) := rfl
  simp only [Usage.Accounted, if_true, priced_not]
  constructor
  · rintro ⟨hinput, houtput, hlen⟩
    rw [htotal] at hinput hlen
    simp only [buildTieredTokenParams, if_true] at hinput houtput hlen
    split_ifs at hinput houtput <;> omega
  · intro haccounted
    refine ⟨?_, ?_, ?_⟩
    · rw [htotal]
      simp only [buildTieredTokenParams, if_true]
      split_ifs <;> omega
    · simp only [buildTieredTokenParams, if_true]
      split_ifs <;> omega
    · rw [htotal]
      simp only [buildTieredTokenParams, if_true]
      omega

/-- Every token of a report is priced once exactly when the report and the expression account for
it. -/
theorem tokens_priced_once_iff {isClaudeUsageSemantic : Bool}
    (h : usage.WellFormed isClaudeUsageSemantic) :
    PricedOnce usage isClaudeUsageSemantic usedVars
        (buildTieredTokenParams usage isClaudeUsageSemantic usedVars) ↔
      usage.Accounted isClaudeUsageSemantic usedVars := by
  cases isClaudeUsageSemantic with
  | false => exact pricedOnce_openai_iff h
  | true => exact pricedOnce_claude_iff h

/-- A report of Claude with 100 prompt tokens and 50 that were read from the cache. -/
def cachedUsage : Usage := { promptTokens := 100, completionTokens := 10, cachedTokens := 50 }

/-- An expression with a variable for cache reads prices them once. -/
theorem cachedUsage_priced_once :
    PricedOnce cachedUsage true (· = .cr)
      (buildTieredTokenParams cachedUsage true (· = .cr)) := by
  refine (tokens_priced_once_iff ?_).mpr ?_
  · constructor <;> decide
  · simp only [Usage.Accounted, if_true]
    decide

/-- An expression without one does not price them at all. -/
theorem cached_tokens_not_priced :
    cachedUsage.WellFormed true ∧ ¬PricedOnce cachedUsage true (fun _ => false)
      (buildTieredTokenParams cachedUsage true fun _ => false) := by
  refine ⟨by constructor <;> decide, ?_⟩
  rintro ⟨hinput, -, -⟩
  exact absurd hinput (by decide)

end Yunbay
