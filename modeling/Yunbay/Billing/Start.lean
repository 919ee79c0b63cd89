import Yunbay.Billing.Calls

/-!
# Building a billing session

`newBillingSession_ok` reduces `NewBillingSession`, with its fallbacks from one source to another,
to one pre-consume. `preConsume_ok` and `preConsume_error` say what that pre-consume leaves behind:
the same quota taken from the token and the funding source, or nothing. -/

namespace Yunbay

open Except

variable {quota amount now : Int} {input : StartInput} {env : Env} {faults : Faults} {fails : Bool}
  {funding' : Funding}

namespace BillingSession

variable {info : RelayInfo} {funding : Funding} {accounts accounts' : Accounts}
  {session : BillingSession} {error : ApiError} {valuePackageSubscriptionId : Int}

/-! ## One pre-consume -/

/-- The quota that is really pre-consumed. -/
def effectiveQuota (input : StartInput) (info : RelayInfo) (funding : Funding) (quota : Int) :
    Int :=
  if shouldTrust input (blank info funding) then 0 else quota

lemma effectiveQuota_nonneg (input : StartInput) (info : RelayInfo) (funding : Funding)
    (hquota : 0 ≤ quota) : 0 ≤ effectiveQuota input info funding quota := by
  unfold effectiveQuota
  split_ifs
  · exact le_rfl
  · exact hquota

lemma tokenConsumed_eq (info : RelayInfo) (hamount : 0 ≤ amount) :
    (if 0 < amount ∧ ¬info.isPlayground then amount else 0) = tokenShare info amount := by
  unfold tokenShare
  cases info.isPlayground with
  | true => simp
  | false =>
    simp only [Bool.false_eq_true, not_false_eq_true, and_true, if_false]
    split_ifs <;> omega

lemma preConsume_token (hquota : 0 ≤ quota)
    (h : (if 0 < effectiveQuota input info funding quota then preConsumeTokenQuota fails info
      accounts (effectiveQuota input info funding quota) else .ok accounts) = .ok accounts') :
    accounts' = { accounts with
      tokenRemain := accounts.tokenRemain -
        tokenShare info (effectiveQuota input info funding quota) } := by
  have hnonneg := effectiveQuota_nonneg input info funding hquota
  split_ifs at h with hpos
  · rw [preConsumeTokenQuota_ok h]
    unfold tokenShare
    cases info.isPlayground <;> simp
  · cases h
    have hzero : effectiveQuota input info funding quota = 0 := by omega
    simp [hzero, tokenShare]

theorem preConsume_ok (hquota : 0 ≤ quota)
    (h : (blank info funding).preConsume env input faults quota accounts =
      (.ok session, accounts')) :
    ∃ funding',
      funding.preConsume env faults.funding input.now (effectiveQuota input info funding quota)
        { accounts with
          tokenRemain := accounts.tokenRemain -
            tokenShare info (effectiveQuota input info funding quota) } =
        .ok (funding', accounts') ∧
      session = syncRelayInfo
        { blank info funding' with
          trusted := shouldTrust input (blank info funding)
          tokenConsumed := tokenShare info (effectiveQuota input info funding quota)
          preConsumedQuota := effectiveQuota input info funding quota } := by
  unfold preConsume at h
  dsimp only at h
  split at h
  · cases h
  · rename_i accounts₁ htoken
    cases preConsume_token hquota htoken
    split at h
    · cases h
    · rename_i funding' accounts₂ hfunding
      cases h
      refine ⟨funding', hfunding, ?_⟩
      rw [← tokenConsumed_eq info (effectiveQuota_nonneg input info funding hquota)]
      rfl

lemma giveBack_tokenShare (info : RelayInfo) (hamount : 0 ≤ amount) (fails : Bool)
    (accounts : Accounts) :
    ∃ remain, (if 0 < tokenShare info amount ∧ ¬info.isPlayground then
        { accounts with tokenRemain := accounts.tokenRemain - tokenShare info amount
          : Accounts }.giveBackToken fails (tokenShare info amount)
      else { accounts with tokenRemain := accounts.tokenRemain - tokenShare info amount }) =
        { accounts with tokenRemain := remain } ∧
      (fails = false → remain = accounts.tokenRemain) := by
  split_ifs with hpos
  · cases fails with
    | false =>
      refine ⟨accounts.tokenRemain, ?_, fun _ => rfl⟩
      rw [Accounts.giveBackToken_eq _ hpos.1.le, sub_add_cancel]
    | true =>
      obtain ⟨remain, hback⟩ := Accounts.giveBackToken_frame true
        { accounts with tokenRemain := accounts.tokenRemain - tokenShare info amount }
        (tokenShare info amount)
      exact ⟨remain, hback, nofun⟩
  · -- the share was nothing
    refine ⟨_, rfl, fun _ => ?_⟩
    have hzero : tokenShare info amount = 0 := by
      unfold tokenShare at hpos ⊢
      split_ifs at hpos ⊢ with hplayground
      · rfl
      · have : ¬0 < amount := fun hlt => hpos ⟨hlt, hplayground⟩
        omega
    rw [hzero, sub_zero]

/-- A session that could not be built has given everything back. -/
theorem preConsume_error (hquota : 0 ≤ quota)
    (h : (blank info funding).preConsume env input faults quota accounts =
      (.error error, accounts')) :
    ∃ remain, accounts' = { accounts with tokenRemain := remain } ∧
      (faults.rollback = false → remain = accounts.tokenRemain) := by
  unfold preConsume at h
  dsimp only at h
  split at h
  · cases h
    exact ⟨accounts.tokenRemain, rfl, fun _ => rfl⟩
  · rename_i accounts₁ htoken
    cases preConsume_token hquota htoken
    have hnonneg := effectiveQuota_nonneg input info funding hquota
    split at h
    · cases h
      have hback := giveBack_tokenShare info hnonneg faults.rollback accounts
      rw [← tokenConsumed_eq info hnonneg] at hback ⊢
      exact hback
    · cases h

/-! ## Choosing the source -/

lemma fundingPreConsume_wallet {userId : Int} (hamount : 0 ≤ amount)
    (h : (Funding.wallet ⟨userId, 0⟩).preConsume env fails now amount accounts =
      .ok (funding', accounts')) :
    funding' = .wallet ⟨userId, amount⟩ ∧
      accounts' = { accounts with userQuota := accounts.userQuota - amount } := by
  unfold Funding.preConsume at h
  dsimp only at h
  split_ifs at h with hidle
  · cases h
    obtain rfl : amount = 0 := by omega
    exact ⟨rfl, by rw [sub_zero]⟩
  · obtain ⟨after, hok, h⟩ := bind_eq_ok.mp h
    cases h
    exact ⟨rfl, Accounts.decreaseQuota_ok hok⟩

lemma fundingPreConsume_subscription {sub : SubscriptionFunding}
    (h : (Funding.subscription sub).preConsume env fails now amount accounts =
      .ok (funding', accounts')) :
    ∃ result db,
      (if 0 < sub.valuePackageSubscriptionId then
        preConsumeValuePackageSubscription accounts.db now sub.requestId sub.userId
          sub.valuePackageSubscriptionId sub.amount
      else preConsumeUserSubscription env accounts.db now sub.requestId sub.userId sub.amount) =
        .ok (result, db) ∧
      accounts' = { accounts with db } ∧
      funding' = .subscription
        { sub with
          subscriptionId := result.userSubscriptionId
          preConsumed := result.preConsumed
          amountTotal := result.amountTotal
          amountUsedAfter := result.amountUsedAfter } := by
  unfold Funding.preConsume SubscriptionFunding.preConsume at h
  obtain ⟨⟨sub', after⟩, hsub, h⟩ := bind_eq_ok.mp h
  cases h
  obtain ⟨⟨result, after⟩, htx, hsub⟩ := bind_eq_ok.mp hsub
  cases hsub
  obtain ⟨-, db, hdb, rfl⟩ := Accounts.runTx_eq_ok.mp htx
  exact ⟨result, db, hdb, rfl, rfl⟩

/-- The session is the one that a pre-consume from the wallet has built. Earlier attempts may have
moved the token, if their rollback failed. -/
def WalletStart (env : Env) (input : StartInput) (accounts : Accounts) (session : BillingSession)
    (accounts' : Accounts) : Prop :=
  ∃ (info : RelayInfo) (remain : Int),
    (blank info (.wallet ⟨info.userId, 0⟩)).preConsume env input input.walletFaults
      input.walletConsume { accounts with tokenRemain := remain } = (.ok session, accounts')

/-- The funding source that `trySubscription` starts with. -/
def freshSubscription (input : StartInput) (info : RelayInfo) (valuePackageSubscriptionId : Int) :
    SubscriptionFunding :=
  ⟨info.requestId, info.userId, input.subConsume, valuePackageSubscriptionId, 0, 0, 0, 0⟩

/-- The session is the one that a pre-consume from a subscription has built. -/
def SubscriptionStart (env : Env) (input : StartInput) (info : RelayInfo)
    (valuePackageSubscriptionId : Int) (accounts : Accounts) (session : BillingSession)
    (accounts' : Accounts) : Prop :=
  ∃ remain : Int,
    (blank info
      (.subscription (freshSubscription input info valuePackageSubscriptionId))).preConsume
      env input input.subscriptionFaults input.subConsume
      { accounts with tokenRemain := remain } = (.ok session, accounts')

/-- The session that a pre-consume from a subscription builds. -/
def subscriptionSession (input : StartInput) (info : RelayInfo) (valuePackageSubscriptionId : Int)
    (result : SubscriptionPreConsumeResult) : BillingSession :=
  { blank { info with subscriptionId := result.userSubscriptionId }
      (.subscription
        { freshSubscription input info valuePackageSubscriptionId with
          subscriptionId := result.userSubscriptionId
          preConsumed := result.preConsumed
          amountTotal := result.amountTotal
          amountUsedAfter := result.amountUsedAfter }) with
    tokenConsumed := tokenShare info input.subConsume
    preConsumedQuota := input.subConsume }

lemma subConsume_pos (input : StartInput) : 0 < input.subConsume := by
  unfold StartInput.subConsume
  split_ifs <;> omega

lemma tryWallet_ok (h : tryWallet env input info accounts = (.ok session, accounts')) :
    WalletStart env input accounts session accounts' := by
  unfold tryWallet at h
  split_ifs at h
  · cases h
  · cases h
  · exact ⟨info, accounts.tokenRemain, h⟩

lemma tryWallet_error (hquota : 0 ≤ input.walletConsume)
    (h : tryWallet env input info accounts = (.error error, accounts')) :
    ∃ remain, accounts' = { accounts with tokenRemain := remain } := by
  unfold tryWallet at h
  split_ifs at h
  · cases h
    exact ⟨_, rfl⟩
  · cases h
    exact ⟨_, rfl⟩
  · obtain ⟨remain, heq, -⟩ := preConsume_error hquota h
    exact ⟨remain, heq⟩

lemma effectiveQuota_subscription (input : StartInput) (info : RelayInfo)
    (sub : SubscriptionFunding) (quota : Int) :
    effectiveQuota input info (.subscription sub) quota = quota := by
  unfold effectiveQuota shouldTrust
  simp [blank]

lemma SubscriptionStart.tx
    (h : SubscriptionStart env input info valuePackageSubscriptionId accounts session accounts') :
    ∃ result,
      (if 0 < valuePackageSubscriptionId then
        preConsumeValuePackageSubscription accounts.db input.now info.requestId info.userId
          valuePackageSubscriptionId input.subConsume
      else
        preConsumeUserSubscription env accounts.db input.now info.requestId info.userId
          input.subConsume) = .ok (result, accounts'.db) ∧
      session = subscriptionSession input info valuePackageSubscriptionId result := by
  obtain ⟨remain, h⟩ := h
  obtain ⟨funding', hfunding, rfl⟩ := preConsume_ok (subConsume_pos input).le h
  rw [effectiveQuota_subscription] at hfunding ⊢
  obtain ⟨result, db, htx, rfl, rfl⟩ := fundingPreConsume_subscription hfunding
  refine ⟨result, htx, ?_⟩
  have huntrusted : shouldTrust input (blank info (.subscription
      (freshSubscription input info valuePackageSubscriptionId))) = false := by
    simp [shouldTrust, blank]
  rw [huntrusted]
  rfl

lemma trySubscription_ok
    (h : trySubscription env input info valuePackageSubscriptionId accounts =
      (.ok session, accounts')) :
    SubscriptionStart env input info valuePackageSubscriptionId accounts session accounts' := by
  unfold trySubscription at h
  dsimp only at h
  split at h
  · cases h
  · rename_i session₁ accounts₁ hpre
    cases h
    refine ⟨accounts.tokenRemain, ?_⟩
    obtain ⟨funding', -, rfl⟩ := preConsume_ok (subConsume_pos input).le hpre
    rw [effectiveQuota_subscription] at hpre ⊢
    exact hpre

lemma trySubscription_error
    (h : trySubscription env input info valuePackageSubscriptionId accounts =
      (.error error, accounts')) :
    ∃ remain, accounts' = { accounts with tokenRemain := remain } := by
  unfold trySubscription at h
  dsimp only at h
  split at h
  · rename_i hpre
    cases h
    obtain ⟨remain, heq, -⟩ := preConsume_error (subConsume_pos input).le hpre
    exact ⟨remain, heq⟩
  · cases h

lemma orElseIfInsufficient_ok {first : Except ApiError BillingSession × Accounts}
    {second : Accounts → Except ApiError BillingSession × Accounts}
    (h : orElseIfInsufficient first second = (.ok session, accounts')) :
    first = (.ok session, accounts') ∨
      ∃ error accounts₁, first = (.error error, accounts₁) ∧
        second accounts₁ = (.ok session, accounts') := by
  unfold orElseIfInsufficient at h
  split at h
  · rename_i error accounts₁
    split_ifs at h
    · exact .inr ⟨error, accounts₁, rfl, h⟩
    · cases h
  · exact .inl h

/-- A session is built by one pre-consume: from the wallet, from the request's value package, or, if
the request has none, from a regular subscription. -/
theorem newBillingSession_ok (hquota : 0 ≤ input.walletConsume)
    (h : newBillingSession env input info accounts = (.ok session, accounts')) :
    WalletStart env input accounts session accounts' ∨
      (0 < info.valuePackageSubscriptionId ∧ SubscriptionStart env input info
        info.valuePackageSubscriptionId accounts session accounts') ∨
      SubscriptionStart env input info 0 accounts session accounts' := by
  -- a second attempt starts from accounts that differ from the first ones by the token
  have hwallet (info : RelayInfo) {accounts₁ : Accounts} {remain : Int}
      (haccounts : accounts₁ = { accounts with tokenRemain := remain })
      (hsecond : tryWallet env input info accounts₁ = (.ok session, accounts')) :
      WalletStart env input accounts session accounts' := by
    subst haccounts
    have hstart := tryWallet_ok hsecond
    exact hstart
  unfold newBillingSession at h
  by_cases huse : info.valuePackageUseWallet = true
  · rw [if_pos huse] at h
    exact .inl (tryWallet_ok h)
  rw [if_neg huse] at h
  by_cases hpackage : 0 < info.valuePackageSubscriptionId
  · rw [if_pos hpackage] at h
    dsimp only at h
    by_cases hfallback : info.valuePackageWalletFallback = true
    · rw [if_pos hfallback] at h
      obtain hfirst | ⟨error, accounts₁, hfirst, hsecond⟩ := orElseIfInsufficient_ok h
      · exact .inr (.inl ⟨hpackage, trySubscription_ok hfirst⟩)
      · obtain ⟨remain, haccounts⟩ := trySubscription_error hfirst
        exact .inl (hwallet _ haccounts hsecond)
    · rw [if_neg hfallback] at h
      exact .inr (.inl ⟨hpackage, trySubscription_ok h⟩)
  rw [if_neg hpackage] at h
  cases hpreference : info.billingPreference with
  | subscriptionOnly =>
    rw [hpreference] at h
    exact .inr (.inr (trySubscription_ok h))
  | walletOnly =>
    rw [hpreference] at h
    exact .inl (tryWallet_ok h)
  | walletFirst =>
    rw [hpreference] at h
    obtain hfirst | ⟨error, accounts₁, hfirst, hsecond⟩ := orElseIfInsufficient_ok h
    · exact .inl (tryWallet_ok hfirst)
    · obtain ⟨remain, rfl⟩ := tryWallet_error hquota hfirst
      have hstart := trySubscription_ok hsecond
      exact .inr (.inr hstart)
  | subscriptionFirst =>
    rw [hpreference] at h
    dsimp only at h
    split_ifs at h with hfails hactive
    · cases h
    · obtain hfirst | ⟨error, accounts₁, hfirst, hsecond⟩ := orElseIfInsufficient_ok h
      · exact .inr (.inr (trySubscription_ok hfirst))
      · obtain ⟨remain, haccounts⟩ := trySubscription_error hfirst
        exact .inl (hwallet _ haccounts hsecond)
    · exact .inl (tryWallet_ok h)

end BillingSession

end Yunbay
