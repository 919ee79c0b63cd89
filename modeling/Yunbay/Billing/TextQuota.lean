import Mathlib.Data.Rat.Floor
import Yunbay.Relay.TieredTokens

/-!
# The quota of a text request

`PostTextConsumeQuota` works out the quota of a text request from its usage, settles the session
with it, and adds it to the used quotas of the user and of the channel and to the log. Prices and
quotas are exact numbers here, and the prices of the settings are those that they have for the model
of the request.
-/

namespace Yunbay

/-- The nearest integer, halves away from zero. -/
def roundHalfAway (x : ℚ) : Int := if x < 0 then -⌊-x + 1 / 2⌋ else ⌊x + 1 / 2⌋

/-- `dto.Usage` with the columns that say where it comes from. -/
structure TextUsage extends Usage where
  usageSource : String := ""
  usageSemantic : String := ""
  /-- `Cost`, if it is a number. -/
  cost : Option ℚ := none

def TextUsage.totalTokens (usage : TextUsage) : Int := usage.promptTokens + usage.completionTokens

/-- The ratios of a model. -/
structure TextPrice where
  usePrice : Bool := false
  modelPrice : ℚ := 0
  modelRatio : ℚ := 1
  groupRatio : ℚ := 1
  completionRatio : ℚ := 1
  cacheRatio : ℚ := 1
  imageRatio : ℚ := 1
  cacheCreationRatio : ℚ := 1
  cacheCreation5mRatio : ℚ := 1
  cacheCreation1hRatio : ℚ := 1
  otherRatios : List ℚ := []

/-- A snapshot with the billing mode `tiered_expr`. -/
structure TieredBilling where
  groupRatio : ℚ
  estimatedQuotaAfterGroup : Int
  usedVars : TokenVar → Bool
  /-- `ActualQuotaBeforeGroup`; none if the evaluation fails. -/
  quotaBeforeGroup : TokenParams → Option ℚ

/-- What the quota depends on beside the usage. -/
structure TextRequest where
  price : TextPrice := {}
  quotaPerUnit : ℚ := 500000
  estimatePromptTokens : Int := 0
  /-- The final request has the format of Claude. -/
  isClaudeFormat : Bool := false
  isOpenRouter : Bool := false
  /-- The ratio of the model in `GetDefaultModelRatioMap`. -/
  defaultModelRatio : Option ℚ := none
  /-- `GetGeminiInputAudioPricePerMillionTokens` -/
  audioInputPrice : ℚ := 0
  /-- `calculateTextToolCallSurcharge` -/
  toolCallSurchargeQuota : ℚ := 0
  finalPreConsumedQuota : Int := 0
  tiered : Option TieredBilling := none

/-- The tokens that are multiplied by the price of each kind. -/
structure InputQuantities where
  base : Int
  cached : Int
  creation : Int
  creation5m : Int
  creation1h : Int
  image : Int
  audio : Int
  deriving DecidableEq

namespace TextRequest

variable (request : TextRequest) (usage : TextUsage)

def usageSemanticFromUsage : String :=
  if usage.usageSemantic ≠ "" then usage.usageSemantic
  else if request.isClaudeFormat then "anthropic" else "openai"

def isClaudeUsageSemantic : Bool := request.usageSemanticFromUsage usage = "anthropic"

def isLegacyClaudeDerivedOpenAIUsage : Bool :=
  !request.isClaudeFormat && (usage.usageSource = "" && usage.usageSemantic = "") &&
    (0 < usage.claudeCacheCreation5mTokens || 0 < usage.claudeCacheCreation1hTokens)

def isOpenRouterClaudeBilling : Bool :=
  request.isOpenRouter && request.isClaudeUsageSemantic usage

def calcOpenRouterCacheCreateTokens : Int :=
  if request.price.cacheCreationRatio = 1 then 0
  else
    let quotaPrice := request.price.modelRatio / request.quotaPerUnit
    roundHalfAway ((usage.cost.getD 0 - usage.promptTokens * quotaPrice +
      usage.cachedTokens * (quotaPrice - quotaPrice * request.price.cacheRatio) -
      usage.completionTokens * (quotaPrice * request.price.completionRatio)) /
      (quotaPrice * request.price.cacheCreationRatio - quotaPrice))

/-- The cache-creation tokens of the summary: for OpenRouter they are guessed if there are none. The
test for a cost always passes, as it compares what JSON has with an integer. -/
def cacheCreationTokens : Int :=
  let isUsingCustomSettings :=
    request.price.usePrice || request.defaultModelRatio ≠ some request.price.modelRatio
  let maybeCacheCreationTokens := request.calcOpenRouterCacheCreateTokens usage
  if request.isOpenRouterClaudeBilling usage ∧ usage.cachedCreationTokens = 0 ∧
      request.price.cacheCreationRatio ≠ 1 ∧ ¬isUsingCustomSettings ∧
      0 ≤ maybeCacheCreationTokens ∧
      maybeCacheCreationTokens ≤ usage.promptTokens - usage.cachedTokens then
    maybeCacheCreationTokens
  else usage.cachedCreationTokens

/-- The prompt tokens of the summary. -/
def promptTokens : Int :=
  if request.isOpenRouterClaudeBilling usage then
    usage.promptTokens - usage.cachedTokens - request.cacheCreationTokens usage
  else usage.promptTokens

def inputQuantities : InputQuantities :=
  let creation := request.cacheCreationTokens usage
  let separate :=
    request.isClaudeUsageSemantic usage || request.isLegacyClaudeDerivedOpenAIUsage usage
  -- without any cache-creation tokens nothing has been written
  let split := separate && (creation ≠ 0 || 0 < usage.claudeCacheCreation5mTokens ||
    0 < usage.claudeCacheCreation1hTokens)
  let audio := if 0 < request.audioInputPrice then usage.audioTokens else 0
  { base := request.promptTokens usage - (if separate then 0 else usage.cachedTokens + creation) -
      usage.imageTokens - audio
    cached := usage.cachedTokens
    creation := if split then
        max (creation - usage.claudeCacheCreation5mTokens - usage.claudeCacheCreation1hTokens) 0
      else creation
    creation5m := if split then usage.claudeCacheCreation5mTokens else 0
    creation1h := if split then usage.claudeCacheCreation1hTokens else 0
    image := usage.imageTokens
    audio := audio }

/-- The quota in `calculateTextQuotaSummary`. -/
def calculateTextQuota : Int :=
  let price := request.price
  let ratio := price.modelRatio * price.groupRatio
  let tokens := request.inputQuantities usage
  let quota :=
    if price.usePrice then
      roundHalfAway ((price.modelPrice * request.quotaPerUnit * price.groupRatio +
        request.toolCallSurchargeQuota) * price.otherRatios.prod)
    else
      let promptQuota := tokens.base + tokens.cached * price.cacheRatio +
        tokens.image * price.imageRatio + (tokens.creation * price.cacheCreationRatio +
          tokens.creation5m * price.cacheCreation5mRatio +
          tokens.creation1h * price.cacheCreation1hRatio)
      let audioInputQuota := request.audioInputPrice / 1000000 * tokens.audio *
        price.groupRatio * request.quotaPerUnit
      let total := ((promptQuota + usage.completionTokens * price.completionRatio) * ratio +
        request.toolCallSurchargeQuota + audioInputQuota) * price.otherRatios.prod
      roundHalfAway (if ratio ≠ 0 ∧ total ≤ 0 then 1 else total)
  if usage.totalTokens = 0 then 0 else if ratio ≠ 0 ∧ quota = 0 then 1 else quota

/-- The quota and, if the expression has a value, the quota before the group ratio. -/
def tryTieredSettle (snap : TieredBilling) (params : TokenParams) : Int × Option ℚ :=
  match snap.quotaBeforeGroup params with
  | some quota => (roundHalfAway (quota * snap.groupRatio), some quota)
  | none => (if request.finalPreConsumedQuota ≤ 0 then snap.estimatedQuotaAfterGroup
      else request.finalPreConsumedQuota, none)

def composeTieredTextQuota (snap : TieredBilling) : Int × Option ℚ → Int
  | (tieredQuota, result) =>
    let surcharge := request.toolCallSurchargeQuota
    if surcharge = 0 then tieredQuota
    else match result with
      | some quota => roundHalfAway (quota * snap.groupRatio + surcharge)
      | none => tieredQuota + roundHalfAway surcharge

/-- The quota of a tiered price, if the request has one. -/
def tieredQuota? : Option Int :=
  request.tiered.map fun snap =>
    request.composeTieredTextQuota snap (request.tryTieredSettle snap
      (buildTieredTokenParams usage.toUsage (request.isClaudeUsageSemantic usage) snap.usedVars))

end TextRequest

/-- The amounts that `PostTextConsumeQuota` passes on. -/
structure TextAccounts where
  settled : Int
  userUsed : Int
  channelUsed : Int
  logged : Int
  deriving DecidableEq

/-- Without tokens nothing is added to the used quotas. -/
def TextAccounts.post (usage : TextUsage) (quota : Int) : TextAccounts :=
  let used := if usage.totalTokens = 0 then 0 else quota
  ⟨quota, used, used, quota⟩

def postTextConsumeQuota (request : TextRequest) (usage : Option TextUsage) : TextAccounts :=
  let counted := usage.getD
    { promptTokens := request.estimatePromptTokens, completionTokens := 0 }
  -- without a usage the tiered price is not asked
  .post counted ((usage.bind request.tieredQuota?).getD (request.calculateTextQuota counted))

/-! ## Every input token has one price -/

namespace TextRequest

/-- The prompt tokens do not include the cached ones. -/
def excludesCached (request : TextRequest) (usage : TextUsage) : Bool :=
  (request.isClaudeUsageSemantic usage && !request.isOpenRouter) ||
    request.isLegacyClaudeDerivedOpenAIUsage usage

/-- The counts are not negative, and the parts are not more than what they are parts of. -/
structure Counts (request : TextRequest) (usage : TextUsage) : Prop where
  cached : 0 ≤ usage.cachedTokens
  creation5m : 0 ≤ usage.claudeCacheCreation5mTokens
  creation1h : 0 ≤ usage.claudeCacheCreation1hTokens
  split_le : usage.claudeCacheCreation5mTokens + usage.claudeCacheCreation1hTokens ≤
    usage.cachedCreationTokens
  image : 0 ≤ usage.imageTokens
  audio : 0 ≤ usage.audioTokens
  parts_le : (if request.excludesCached usage then 0
    else usage.cachedTokens + usage.cachedCreationTokens) + usage.imageTokens +
      usage.audioTokens ≤ usage.promptTokens

/-- No quantity is negative, and together they are the input tokens. -/
def PricesOnce (request : TextRequest) (usage : TextUsage) : Prop :=
  let tokens := request.inputQuantities usage
  (0 ≤ tokens.base ∧ 0 ≤ tokens.cached ∧ 0 ≤ tokens.creation ∧ 0 ≤ tokens.creation5m ∧
    0 ≤ tokens.creation1h ∧ 0 ≤ tokens.image ∧ 0 ≤ tokens.audio) ∧
  tokens.base + tokens.cached + tokens.creation + tokens.creation5m + tokens.creation1h +
      tokens.image + tokens.audio =
    usage.promptTokens +
      if request.excludesCached usage then usage.cachedTokens + usage.cachedCreationTokens else 0

lemma not_claude_of_legacy (request : TextRequest) (usage : TextUsage)
    (h : request.isLegacyClaudeDerivedOpenAIUsage usage = true) :
    request.isClaudeUsageSemantic usage = false := by
  simp only [isLegacyClaudeDerivedOpenAIUsage, Bool.and_eq_true, Bool.not_eq_true',
    decide_eq_true_eq] at h
  simp [isClaudeUsageSemantic, usageSemanticFromUsage, h.1.1, h.1.2.2]

/-- A guess takes the place of no tokens at all. -/
lemma cacheCreationTokens_cases (request : TextRequest) (usage : TextUsage) :
    request.cacheCreationTokens usage = usage.cachedCreationTokens ∨
      request.isOpenRouterClaudeBilling usage = true ∧ usage.cachedCreationTokens = 0 ∧
        0 ≤ request.cacheCreationTokens usage := by
  by_cases hguess : request.cacheCreationTokens usage = usage.cachedCreationTokens
  · exact .inl hguess
  · unfold cacheCreationTokens at hguess ⊢
    dsimp only at hguess ⊢
    split_ifs at hguess ⊢ with h
    · exact .inr ⟨h.1, h.2.1, h.2.2.2.2.1⟩
    · exact absurd rfl hguess

end TextRequest

open TextRequest in
/-- Every input token is priced once exactly if, for OpenRouter, the cached, the cache-creation and
the separately priced image and audio tokens fit into the prompt tokens. -/
theorem input_priced_once_iff (request : TextRequest) (usage : TextUsage)
    (h : request.Counts usage) :
    request.PricesOnce usage ↔ (request.isOpenRouterClaudeBilling usage = true →
      usage.cachedTokens + request.cacheCreationTokens usage + usage.imageTokens +
        (if 0 < request.audioInputPrice then usage.audioTokens else 0) ≤ usage.promptTokens) := by
  obtain ⟨hcached, h5m, h1h, hsplit, himage, haudio, hparts⟩ := h
  have hguess := request.cacheCreationTokens_cases usage
  have hlegacy := not_claude_of_legacy request usage
  simp only [PricesOnce, inputQuantities, promptTokens, excludesCached,
    isOpenRouterClaudeBilling] at hparts hguess ⊢
  obtain hclaude | hclaude := Bool.eq_false_or_eq_true (request.isClaudeUsageSemantic usage) <;>
    obtain hrouter | hrouter := Bool.eq_false_or_eq_true request.isOpenRouter <;>
    obtain hderived | hderived :=
      Bool.eq_false_or_eq_true (request.isLegacyClaudeDerivedOpenAIUsage usage) <;>
    simp [hclaude, hrouter, hderived] at hparts hguess hlegacy ⊢ <;> split_ifs <;> omega

/-- OpenRouter bills a request of Claude at a default ratio. -/
def openRouterRequest : TextRequest :=
  { price := { cacheCreationRatio := 2 }
    isClaudeFormat := true
    isOpenRouter := true
    defaultModelRatio := some 1 }

theorem text_priced_once :
    openRouterRequest.PricesOnce { promptTokens := 10, completionTokens := 0, imageTokens := 5 } :=
  (input_priced_once_iff _ _ (by constructor <;> decide)).mpr (by decide +kernel)

/-- The cost is that of ten created tokens, and five of the ten prompt tokens are image tokens. -/
theorem guessed_tokens_overlap :
    (openRouterRequest.inputQuantities
      { promptTokens := 10, completionTokens := 0, imageTokens := 5, cost := some (1 / 25000) }) =
        ⟨-5, 0, 10, 0, 0, 5, 0⟩ := by
  decide +kernel

/-- What is settled equals what is added to the used quotas and what is logged. -/
def TextAccounts.Agree (accounts : TextAccounts) : Prop :=
  accounts.userUsed = accounts.settled ∧ accounts.channelUsed = accounts.settled ∧
    accounts.logged = accounts.settled

lemma calculateTextQuota_of_total (request : TextRequest) {usage : TextUsage}
    (h : usage.totalTokens = 0) : request.calculateTextQuota usage = 0 :=
  if_pos h

lemma TextAccounts.agree_post_iff (usage : TextUsage) (quota : Int) :
    (TextAccounts.post usage quota).Agree ↔ (usage.totalTokens = 0 → quota = 0) := by
  by_cases htotal : usage.totalTokens = 0 <;> simp [Agree, post, htotal, eq_comm]

/-- The amounts agree exactly if a tiered price asks for nothing when the usage has no tokens. -/
theorem text_quota_accounted_iff (request : TextRequest) (usage : Option TextUsage) :
    (postTextConsumeQuota request usage).Agree ↔
      ∀ reported ∈ usage, reported.totalTokens = 0 →
        ∀ quota ∈ request.tieredQuota? reported, quota = 0 := by
  rw [postTextConsumeQuota, TextAccounts.agree_post_iff]
  cases usage with
  | none =>
    refine iff_of_true (fun htotal => ?_) (by simp)
    exact calculateTextQuota_of_total request htotal
  | some usage =>
    simp only [Option.mem_some_iff, forall_eq', Option.getD_some, Option.bind_some]
    refine forall_congr' fun htotal => ?_
    rw [calculateTextQuota_of_total request htotal]
    cases request.tieredQuota? usage <;> simp

/-- The expression has a constant part of `5`, and the usage has no tokens. -/
theorem constant_part_settled :
    postTextConsumeQuota { tiered := some ⟨1, 0, fun _ => false, fun _ => some 5⟩ }
      (some { promptTokens := 0, completionTokens := 0 }) = ⟨5, 0, 0, 5⟩ := by
  decide +kernel

end Yunbay
