import Yunbay.Subscription.Regular

/-!
# Billing sessions

`service/billing_session.go` and `service/funding_source.go`: one session per request, which
pre-consumes quota from a funding source and from the request's token, may reserve more while the
request runs, and ends with a settlement or a refund.

Batched updates of user and token quotas count as made when the call returns.
-/

namespace Yunbay

open Except hiding error

variable {fails : Bool} {quota : Int} {accounts accounts' : Accounts}

/-! ## Accounts -/

/-- The balances a session moves. -/
structure Accounts where
  db : DB
  /-- `users.quota` of the session's user. -/
  userQuota : Int
  /-- `tokens.remain_quota` of the session's token. -/
  tokenRemain : Int

/-- Which database calls of an operation fail. -/
structure Faults where
  /-- The call on the funding source. -/
  funding : Bool
  /-- The call on the token. -/
  token : Bool
  /-- The call that takes a reservation back after a later call has failed. -/
  rollback : Bool
  /-- The write of the usage record at the end of a settlement. -/
  usage : Bool

def Faults.none : Faults := ⟨false, false, false, false⟩

/-- What made a call on an account fail. -/
inductive AccountError where
  | database
  | quotaNegative
  | invalidUserId
  | userQuotaNotEnough (need : Int)
  | tokenQuotaNotEnough
  | tx (error : TxError)

/-- The codes of `types.NewAPIError` that sessions use. -/
inductive ErrorCode where
  | insufficientUserQuota
  | preConsumeTokenQuotaFailed
  | updateDataError
  | queryDataError
  deriving DecidableEq

structure ApiError where
  code : ErrorCode
  cause : AccountError

namespace Accounts

/-- A change of a balance by a quota that must not be negative. -/
def guarded (fails : Bool) (quota : Int) (after : Accounts) : Except AccountError Accounts := do
  check (0 ≤ quota) .quotaNegative
  check (fails = false) .database
  pure after

def increaseUserQuota (fails : Bool) (accounts : Accounts) (quota : Int) :
    Except AccountError Accounts :=
  guarded fails quota { accounts with userQuota := accounts.userQuota + quota }

def decreaseUserQuota (fails : Bool) (accounts : Accounts) (quota : Int) :
    Except AccountError Accounts :=
  guarded fails quota { accounts with userQuota := accounts.userQuota - quota }

def increaseTokenQuota (fails : Bool) (accounts : Accounts) (quota : Int) :
    Except AccountError Accounts :=
  guarded fails quota { accounts with tokenRemain := accounts.tokenRemain + quota }

def decreaseTokenQuota (fails : Bool) (accounts : Accounts) (quota : Int) :
    Except AccountError Accounts :=
  guarded fails quota { accounts with tokenRemain := accounts.tokenRemain - quota }

/-- `IncreaseTokenQuota` where a failure is only logged. -/
def giveBackToken (fails : Bool) (accounts : Accounts) (quota : Int) : Accounts :=
  match accounts.increaseTokenQuota fails quota with
  | .error _ => accounts
  | .ok accounts => accounts

/-- `DecreaseUserQuotaIfEnough`: `UPDATE … WHERE id = ? AND quota >= ?`. -/
def decreaseUserQuotaIfEnough (fails : Bool) (accounts : Accounts) (userId quota : Int) :
    Except AccountError Accounts := do
  check (0 ≤ quota) .quotaNegative
  if quota = 0 then pure accounts
  else do
    check (0 < userId) .invalidUserId
    check (fails = false) .database
    check (quota ≤ accounts.userQuota) (.userQuotaNotEnough quota)
    pure { accounts with userQuota := accounts.userQuota - quota }

/-- A transaction on the database of the subscriptions. -/
def runTx {α : Type} (fails : Bool) (accounts : Accounts) (tx : DB → Except TxError (α × DB)) :
    Except AccountError (α × Accounts) :=
  if fails then .error .database
  else
    match tx accounts.db with
    | .error e => .error (.tx e)
    | .ok (result, db) => .ok (result, { accounts with db })

lemma guarded_eq_ok {after : Accounts} :
    guarded fails quota after = .ok accounts ↔ 0 ≤ quota ∧ fails = false ∧ after = accounts := by
  simp only [guarded, bind_eq_ok, check_eq_ok, pure_eq_ok, exists_const]

lemma increaseUserQuota_eq (accounts : Accounts) (hquota : 0 ≤ quota) :
    accounts.increaseUserQuota false quota =
      .ok { accounts with userQuota := accounts.userQuota + quota } :=
  guarded_eq_ok.mpr ⟨hquota, rfl, rfl⟩

lemma giveBackToken_eq (accounts : Accounts) (hquota : 0 ≤ quota) :
    accounts.giveBackToken false quota =
      { accounts with tokenRemain := accounts.tokenRemain + quota } := by
  have hok : accounts.increaseTokenQuota false quota =
      .ok { accounts with tokenRemain := accounts.tokenRemain + quota } :=
    guarded_eq_ok.mpr ⟨hquota, rfl, rfl⟩
  rw [giveBackToken, hok]

lemma giveBackToken_frame (fails : Bool) (accounts : Accounts) (quota : Int) :
    ∃ remain, accounts.giveBackToken fails quota = { accounts with tokenRemain := remain } := by
  unfold giveBackToken
  split
  · exact ⟨_, rfl⟩
  · rename_i after hok
    obtain ⟨-, -, rfl⟩ := guarded_eq_ok.mp hok
    exact ⟨_, rfl⟩

lemma giveBackToken_db (fails : Bool) (accounts : Accounts) (quota : Int) :
    (accounts.giveBackToken fails quota).db = accounts.db := by
  obtain ⟨remain, hback⟩ := giveBackToken_frame fails accounts quota
  rw [hback]

lemma decreaseQuota_ok {userId : Int}
    (h : decreaseUserQuotaIfEnough fails accounts userId quota = .ok accounts') :
    accounts' = { accounts with userQuota := accounts.userQuota - quota } := by
  unfold decreaseUserQuotaIfEnough at h
  obtain ⟨_, h⟩ := of_bind h
  split_ifs at h with hzero
  · cases h
    rw [hzero, sub_zero]
  · obtain ⟨_, h⟩ := of_bind h
    obtain ⟨_, h⟩ := of_bind h
    obtain ⟨_, h⟩ := of_bind h
    exact (pure_eq_ok.mp h).symm

lemma runTx_eq_ok {α : Type} {tx : DB → Except TxError (α × DB)} {result : α} :
    runTx fails accounts tx = .ok (result, accounts') ↔
      fails = false ∧ ∃ db, tx accounts.db = .ok (result, db) ∧
        accounts' = { accounts with db } := by
  unfold runTx
  cases fails with
  | true => simp
  | false =>
    cases htx : tx accounts.db with
    | error e => simp
    | ok r =>
      obtain ⟨answer, db⟩ := r
      simp only [Bool.false_eq_true, if_false, Except.ok.injEq, Prod.mk.injEq, true_and]
      constructor
      · rintro ⟨rfl, rfl⟩
        exact ⟨db, ⟨rfl, rfl⟩, rfl⟩
      · rintro ⟨_, ⟨rfl, rfl⟩, rfl⟩
        exact ⟨rfl, rfl⟩

end Accounts

/-! ## The request -/

/-- `common.NormalizeBillingPreference`. -/
inductive BillingPreference where
  | subscriptionOnly
  | walletOnly
  | walletFirst
  | subscriptionFirst

/-- The fields of `RelayInfo` that a session reads and writes. -/
structure RelayInfo where
  userId : Int
  requestId : String
  isPlayground : Bool
  tokenUnlimited : Bool
  forcePreConsume : Bool
  billingPreference : BillingPreference
  valuePackageUseWallet : Bool
  valuePackageSubscriptionId : Int
  valuePackageWalletFallback : Bool
  /-- Written by `syncRelayInfo`; `0` while the session is on the wallet. -/
  subscriptionId : Int
  realtimeActualQuota : Int
  realtimeReservedQuota : Int

def preConsumeTokenQuota (fails : Bool) (info : RelayInfo) (accounts : Accounts) (quota : Int) :
    Except AccountError Accounts := do
  check (0 ≤ quota) .quotaNegative
  if info.isPlayground then pure accounts
  else do
    check (fails = false) .database
    check (info.tokenUnlimited ∨ quota ≤ accounts.tokenRemain) .tokenQuotaNotEnough
    accounts.decreaseTokenQuota fails quota

lemma preConsumeTokenQuota_ok {info : RelayInfo}
    (h : preConsumeTokenQuota fails info accounts quota = .ok accounts') :
    accounts' = if info.isPlayground then accounts
      else { accounts with tokenRemain := accounts.tokenRemain - quota } := by
  unfold preConsumeTokenQuota at h
  obtain ⟨_, h⟩ := of_bind h
  split_ifs at h ⊢
  · exact (pure_eq_ok.mp h).symm
  · obtain ⟨_, h⟩ := of_bind h
    obtain ⟨_, h⟩ := of_bind h
    exact (Accounts.guarded_eq_ok.mp h).2.2.symm

/-! ## Funding sources -/

/-- A session that the wallet pays for. -/
structure WalletFunding where
  userId : Int
  consumed : Int

/-- One that a subscription pays for. -/
structure SubscriptionFunding where
  requestId : String
  userId : Int
  amount : Int
  valuePackageSubscriptionId : Int
  subscriptionId : Int
  preConsumed : Int
  amountTotal : Int
  amountUsedAfter : Int

/-- `FundingSource`. -/
inductive Funding where
  | wallet (funding : WalletFunding)
  | subscription (funding : SubscriptionFunding)

/-- Does `err.Error()` contain "no active subscription" or "subscription quota insufficient"? -/
def AccountError.isQuotaShortage : AccountError → Bool
  | .tx .noActiveSubscription | .tx (.quotaInsufficient _) | .tx (.limit5hExceeded _)
  | .tx (.limit7dExceeded _) | .tx (.subscriptionQuotaInsufficient _) => true
  | _ => false

/-- `SubscriptionFunding.PreConsume`. The amount is the one the session was built with. -/
def SubscriptionFunding.preConsume (env : Env) (fails : Bool) (now : Int)
    (funding : SubscriptionFunding) (accounts : Accounts) :
    Except AccountError (SubscriptionFunding × Accounts) := do
  let (result, accounts) ← accounts.runTx fails fun db =>
    if 0 < funding.valuePackageSubscriptionId then
      preConsumeValuePackageSubscription db now funding.requestId funding.userId
        funding.valuePackageSubscriptionId funding.amount
    else
      preConsumeUserSubscription env db now funding.requestId funding.userId funding.amount
  pure (
    { funding with
      subscriptionId := result.userSubscriptionId
      preConsumed := result.preConsumed
      amountTotal := result.amountTotal
      amountUsedAfter := result.amountUsedAfter }, accounts)

def Funding.preConsume (env : Env) (fails : Bool) (now amount : Int) (funding : Funding)
    (accounts : Accounts) : Except AccountError (Funding × Accounts) :=
  match funding with
  | .wallet source =>
    if amount ≤ 0 then pure (.wallet source, accounts)
    else do
      let accounts ← accounts.decreaseUserQuotaIfEnough fails source.userId amount
      pure (.wallet { source with consumed := amount }, accounts)
  | .subscription sub => do
    let (sub, accounts) ← sub.preConsume env fails now accounts
    pure (.subscription sub, accounts)

def Funding.settle (fails : Bool) (funding : Funding) (delta : Int) (accounts : Accounts) :
    Except AccountError Accounts :=
  if delta = 0 then pure accounts
  else
    match funding with
    | .wallet _ =>
      if 0 < delta then accounts.decreaseUserQuota fails delta
      else accounts.increaseUserQuota fails (-delta)
    | .subscription sub => do
      let (_, accounts) ← accounts.runTx fails
        fun db => postConsumeUserSubscriptionDelta db sub.subscriptionId delta
      pure accounts

/-- `FundingSource.Refund`. The refund calls do not fail by themselves, and an error of the
transaction is only logged; the retries of a failed transaction change nothing. -/
def Funding.refund (now : Int) (funding : Funding) (accounts : Accounts) : Accounts :=
  match funding with
  | .wallet source =>
    if source.consumed ≤ 0 then accounts
    else { accounts with userQuota := accounts.userQuota + source.consumed }
  | .subscription sub =>
    if sub.preConsumed ≤ 0 then accounts
    else
      { accounts with
        db := commit accounts.db
          (refundSubscriptionPreConsume accounts.db now sub.requestId) }

/-! ## The session -/

/-- The billing of one request. -/
structure BillingSession where
  info : RelayInfo
  funding : Funding
  preConsumedQuota : Int
  tokenConsumed : Int
  extraReserved : Int
  trusted : Bool
  fundingSettled : Bool
  settled : Bool
  refunded : Bool

namespace BillingSession

/-- The session as it is built, before its pre-consume. -/
def blank (info : RelayInfo) (funding : Funding) : BillingSession where
  info := info
  funding := funding
  preConsumedQuota := 0
  tokenConsumed := 0
  extraReserved := 0
  trusted := false
  fundingSettled := false
  settled := false
  refunded := false

/-- `syncRelayInfo` on the fields kept here. -/
def syncRelayInfo (session : BillingSession) : BillingSession :=
  { session with
    info := { session.info with
      subscriptionId :=
        match session.funding with
        | .wallet _ => 0
        | .subscription sub => sub.subscriptionId } }

/-- `funding.valuePackageSubscriptionId` of a session on a value package. -/
def valuePackage? (session : BillingSession) : Option SubscriptionFunding :=
  match session.funding with
  | .wallet _ => none
  | .subscription sub => if 0 < sub.valuePackageSubscriptionId then some sub else none

/-! ### Reserving more -/

def reserveFunding (fails : Bool) (funding : Funding) (delta : Int) (accounts : Accounts) :
    Except ApiError (Funding × Accounts) :=
  match funding with
  | .wallet wallet =>
    match accounts.decreaseUserQuotaIfEnough fails wallet.userId delta with
    | .error e => .error ⟨.updateDataError, e⟩
    | .ok accounts => .ok (.wallet { wallet with consumed := wallet.consumed + delta }, accounts)
  | .subscription sub =>
    match accounts.runTx fails
        fun db => postConsumeUserSubscriptionDelta db sub.subscriptionId delta with
    | .error e => .error ⟨.insufficientUserQuota, e⟩
    | .ok (_, accounts) => .ok (.subscription sub, accounts)

/-- `rollbackFundingReserve`. A failure is only logged. -/
def rollbackFundingReserve (fails : Bool) (funding : Funding) (delta : Int) (accounts : Accounts) :
    Funding × Accounts :=
  match funding with
  | .wallet wallet =>
    match accounts.increaseUserQuota fails delta with
    | .error _ => (.wallet wallet, accounts)
    | .ok accounts => (.wallet { wallet with consumed := wallet.consumed - delta }, accounts)
  | .subscription sub =>
    match accounts.runTx fails
        fun db => postConsumeUserSubscriptionDelta db sub.subscriptionId (-delta) with
    | .error _ => (.subscription sub, accounts)
    | .ok (_, accounts) => (.subscription sub, accounts)

/-- `reserveToken`: whether the token has been charged. -/
def reserveToken (fails : Bool) (info : RelayInfo) (delta : Int) (accounts : Accounts) :
    Except ApiError (Bool × Accounts) :=
  if delta ≤ 0 ∨ info.isPlayground then .ok (false, accounts)
  else
    match preConsumeTokenQuota fails info accounts delta with
    | .error e => .error ⟨.preConsumeTokenQuotaFailed, e⟩
    | .ok accounts => .ok (true, accounts)

/-- The counters after `delta` more has been reserved. -/
def raised (session : BillingSession) (funding : Funding) (delta : Int) (tokenReserved : Bool) :
    BillingSession :=
  syncRelayInfo
    { session with
      funding
      preConsumedQuota := session.preConsumedQuota + delta
      tokenConsumed :=
        if tokenReserved then session.tokenConsumed + delta else session.tokenConsumed
      extraReserved := session.extraReserved + delta }

/-- The part that `Reserve` and `ReserveRealtime` share: the funding source first, then the token,
and the funding source taken back if the token fails. -/
def reserveMore (faults : Faults) (session : BillingSession) (delta : Int) (accounts : Accounts) :
    Option ApiError × BillingSession × Accounts :=
  match reserveFunding faults.funding session.funding delta accounts with
  | .error e => (some e, session, accounts)
  | .ok (funding, accounts₁) =>
    match reserveToken faults.token session.info delta accounts₁ with
    | .error e =>
      let (funding, accounts₂) := rollbackFundingReserve faults.rollback funding delta accounts₁
      (some e, { session with funding }, accounts₂)
    | .ok (tokenReserved, accounts₂) =>
      (none, session.raised funding delta tokenReserved, accounts₂)

def reserve (faults : Faults) (session : BillingSession) (targetQuota : Int) (accounts : Accounts) :
    Option ApiError × BillingSession × Accounts :=
  if session.settled || session.refunded || session.trusted ||
      targetQuota ≤ session.preConsumedQuota then (none, session, accounts)
  else session.reserveMore faults (targetQuota - session.preConsumedQuota) accounts

/-- The realtime counters of the request. -/
def setRealtime (session : BillingSession) (actual reserved : Int) : BillingSession :=
  { session with
    info := { session.info with
      realtimeActualQuota := actual
      realtimeReservedQuota := reserved } }

/-- `ReserveRealtime` on a value package: the token first, then the package to the absolute target,
and the token taken back if the package rejects it. -/
def reservePackageRealtime (faults : Faults) (now : Int) (session : BillingSession)
    (package : SubscriptionFunding) (target : Int) (accounts : Accounts) :
    Option ApiError × BillingSession × Accounts :=
  let extraDelta := target - session.preConsumedQuota
  match reserveToken faults.token session.info extraDelta accounts with
  | .error e => (some e, session, accounts)
  | .ok (tokenReserved, accounts₁) =>
    match accounts₁.runTx faults.funding fun db =>
        reserveValuePackageUsageToTarget db now package.requestId package.userId
          package.valuePackageSubscriptionId target with
    | .error e =>
      -- the source returns the transaction's error as it is
      let restored :=
        if tokenReserved then accounts₁.giveBackToken faults.rollback extraDelta else accounts₁
      (some ⟨.updateDataError, e⟩, session, restored)
    | .ok (result, accounts₂) =>
      let funding := Funding.subscription
        { package with
          subscriptionId := result.userSubscriptionId
          amountTotal := result.amountTotal }
      (none, session.raised funding extraDelta tokenReserved, accounts₂)

/-- The part of `ReserveRealtime` that raises the reservation to a target above it. -/
def raiseTo (faults : Faults) (now : Int) (session : BillingSession) (target : Int)
    (accounts : Accounts) : Option ApiError × BillingSession × Accounts :=
  match session.valuePackage? with
  | some package => session.reservePackageRealtime faults now package target accounts
  | none => session.reserveMore faults (target - session.preConsumedQuota) accounts

/-- `ReserveRealtime`. The target it returns is the new `realtimeReservedQuota`. -/
def reserveRealtime (faults : Faults) (now : Int) (session : BillingSession) (deltaQuota : Int)
    (accounts : Accounts) : Option ApiError × BillingSession × Accounts :=
  if deltaQuota ≤ 0 ∨ session.settled ∨ session.refunded then (none, session, accounts)
  else
    let nextActual := session.info.realtimeActualQuota + deltaQuota
    let target := max nextActual session.preConsumedQuota
    if target ≤ session.info.realtimeReservedQuota then
      (none, session.setRealtime nextActual session.info.realtimeReservedQuota, accounts)
    else if target ≤ session.preConsumedQuota then
      (none, session.setRealtime nextActual target, accounts)
    else
      match session.raiseTo faults now target accounts with
      | (some e, session, accounts) => (some e, session, accounts)
      | (none, session, accounts) => (none, session.setRealtime nextActual target, accounts)

/-! ### Settlement -/

/-- `recordValuePackageUsageForRelay`. A record that does not exist yet would be of epoch `0`. -/
def recordValuePackageUsage (fails : Bool) (now : Int) (info : RelayInfo) (actualQuota : Int)
    (accounts : Accounts) : Option AccountError × Accounts :=
  if actualQuota < 0 ∨ info.valuePackageSubscriptionId ≤ 0 then (none, accounts)
  else
    match accounts.runTx fails fun db => do
        let db ← recordValuePackageUsageTx db
          ⟨info.userId, info.valuePackageSubscriptionId, info.requestId, actualQuota, 0, now⟩
        pure ((), db) with
    | .error e => (some e, accounts)
    | .ok (_, accounts) => (none, accounts)

/-- The first step of a settlement: the funding source is moved by `delta`, or the value package to
the absolute target. -/
def settleFunding (fails : Bool) (now : Int) (session : BillingSession) (actualQuota : Int)
    (accounts : Accounts) : Except AccountError Accounts :=
  if session.fundingSettled then pure accounts
  else
    match session.valuePackage? with
    | some package => do
      let (_, accounts) ← accounts.runTx fails fun db =>
        reserveValuePackageUsageToTarget db now package.requestId package.userId
          package.valuePackageSubscriptionId actualQuota
      pure accounts
    | none => session.funding.settle fails (actualQuota - session.preConsumedQuota) accounts

/-- The second step of a settlement: the token. -/
def settleToken (fails : Bool) (info : RelayInfo) (delta : Int) (accounts : Accounts) :
    Option AccountError × Accounts :=
  if info.isPlayground then (none, accounts)
  else
    match if 0 < delta then accounts.decreaseTokenQuota fails delta
      else accounts.increaseTokenQuota fails (-delta) with
    | .error e => (some e, accounts)
    | .ok accounts => (none, accounts)

/-- `Settle`. Of two errors after the funding source has been settled the first is kept. -/
def settle (faults : Faults) (now : Int) (session : BillingSession) (actualQuota : Int)
    (accounts : Accounts) : Option AccountError × BillingSession × Accounts :=
  if session.settled then (none, session, accounts)
  else
    let delta := actualQuota - session.preConsumedQuota
    if delta = 0 then
      let (error, accounts) :=
        recordValuePackageUsage faults.usage now session.info actualQuota accounts
      (error, { session with settled := true }, accounts)
    else
      match session.settleFunding faults.funding now actualQuota accounts with
      | .error e => (some e, session, accounts)
      | .ok accounts =>
        let (tokenError, accounts) := settleToken faults.token session.info delta accounts
        let (usageError, accounts) :=
          recordValuePackageUsage faults.usage now session.info actualQuota accounts
        (tokenError.orElse fun _ => usageError,
          { session with fundingSettled := true, settled := true }, accounts)

/-! ### Refund -/

/-- `needsRefundLocked`. -/
def needsRefund (session : BillingSession) : Bool :=
  if session.settled || session.refunded || session.fundingSettled then false
  else if 0 < session.tokenConsumed then true
  else
    match session.funding with
    | .wallet _ => false
    | .subscription sub => 0 < sub.preConsumed

/-- What the asynchronous part of a refund has copied from the session. The funding source is
shared with it. -/
structure RefundJob where
  tokenConsumed : Int
  extraReserved : Int
  subscriptionId : Int

/-- The synchronous part of `Refund`. -/
def refund (session : BillingSession) : Option RefundJob × BillingSession :=
  if session.settled || session.refunded || !session.needsRefund then (none, session)
  else
    (some ⟨session.tokenConsumed, session.extraReserved, session.info.subscriptionId⟩,
      { session with refunded := true })

/-- The first two steps of the asynchronous part of `Refund`: the pre-consume of the funding source,
and what has been reserved of a regular subscription since. -/
def refundFunding (now : Int) (session : BillingSession) (job : RefundJob) (accounts : Accounts) :
    Accounts :=
  let accounts := session.funding.refund now accounts
  match session.funding with
  | .wallet _ => accounts
  | .subscription _ =>
    if 0 < job.extraReserved ∧ 0 < job.subscriptionId ∧ session.valuePackage? = none then
      { accounts with
        db := commit accounts.db
          (postConsumeUserSubscriptionDelta accounts.db job.subscriptionId (-job.extraReserved)) }
    else accounts

/-- The asynchronous part of `Refund`. Errors are only logged. -/
def runRefund (now : Int) (session : BillingSession) (job : RefundJob) (accounts : Accounts) :
    Accounts :=
  let accounts := session.refundFunding now job accounts
  if 0 < job.tokenConsumed ∧ ¬session.info.isPlayground then
    { accounts with tokenRemain := accounts.tokenRemain + job.tokenConsumed }
  else accounts

/-! ### Building a session -/

/-- What building a session takes from the request's context and from the price computations. -/
structure StartInput where
  /-- The database clock. -/
  now : Int
  /-- The clock of the application server. -/
  appNow : Int
  preConsumedQuota : Int
  /-- `PriceData.QuotaToPreConsume` and `PriceData.Quota` at the wallet's ratio. -/
  quotaToPreConsume : Int
  priceQuota : Int
  /-- `subscriptionPreConsumeQuota`, a product of floating-point ratios. -/
  subscriptionQuota : Int
  /-- `common.GetTrustQuota()`. -/
  trustQuota : Int
  /-- `token_quota` of the request's context. -/
  tokenQuota : Int
  /-- `GetUserQuota`, which may answer from a cache. -/
  cachedQuota : Int
  quotaReadFails : Bool
  subscriptionCheckFails : Bool
  walletFaults : Faults
  subscriptionFaults : Faults

/-- The quota to pre-consume from the wallet. -/
def StartInput.walletConsume (input : StartInput) : Int :=
  if 0 < input.quotaToPreConsume then input.quotaToPreConsume
  else if 0 < input.priceQuota then input.priceQuota
  else input.preConsumedQuota

/-- The quota to pre-consume from a subscription, at least `1`. -/
def StartInput.subConsume (input : StartInput) : Int :=
  if input.subscriptionQuota ≤ 0 then 1 else input.subscriptionQuota

/-- `shouldTrust`: a rich enough user with a rich enough token is not pre-consumed. -/
def shouldTrust (input : StartInput) (session : BillingSession) : Bool :=
  if session.info.forcePreConsume ∨ input.trustQuota ≤ 0 then false
  else if ¬(session.info.tokenUnlimited ∨ input.trustQuota < input.tokenQuota) then false
  else
    match session.funding with
    | .wallet _ => input.trustQuota < input.cachedQuota
    | .subscription _ => false

/-- The error of a failed pre-consume of the funding source. -/
def fundingError (cause : AccountError) : ApiError :=
  if cause.isQuotaShortage then ⟨.insufficientUserQuota, cause⟩ else ⟨.updateDataError, cause⟩

/-- `preConsume`: the token first, then the funding source, and the token taken back if the
funding source fails. -/
def preConsume (env : Env) (input : StartInput) (faults : Faults) (session : BillingSession)
    (quota : Int) (accounts : Accounts) : Except ApiError BillingSession × Accounts :=
  let trusted := shouldTrust input session
  let effectiveQuota := if trusted then 0 else quota
  match if 0 < effectiveQuota then
      preConsumeTokenQuota faults.token session.info accounts effectiveQuota
    else .ok accounts with
  | .error e => (.error ⟨.preConsumeTokenQuotaFailed, e⟩, accounts)
  | .ok accounts₁ =>
    let tokenConsumed :=
      if 0 < effectiveQuota ∧ ¬session.info.isPlayground then effectiveQuota
      else session.tokenConsumed
    match session.funding.preConsume env faults.funding input.now effectiveQuota accounts₁ with
    | .error e =>
      let restored :=
        if 0 < tokenConsumed ∧ ¬session.info.isPlayground then
          accounts₁.giveBackToken faults.rollback tokenConsumed
        else accounts₁
      (.error (fundingError e), restored)
    | .ok (funding, accounts₂) =>
      (.ok (syncRelayInfo
        { session with funding, trusted, tokenConsumed, preConsumedQuota := effectiveQuota }),
        accounts₂)

def tryWallet (env : Env) (input : StartInput) (info : RelayInfo) (accounts : Accounts) :
    Except ApiError BillingSession × Accounts :=
  if input.quotaReadFails then (.error ⟨.queryDataError, .database⟩, accounts)
  else if 0 < input.walletConsume ∧
      (input.cachedQuota ≤ 0 ∨ input.cachedQuota - input.walletConsume < 0) then
    (.error ⟨.insufficientUserQuota, .userQuotaNotEnough input.walletConsume⟩, accounts)
  else
    (blank info (.wallet ⟨info.userId, 0⟩)).preConsume env input input.walletFaults
      input.walletConsume accounts

/-- `trySubscription`, and the value-package branch of `NewBillingSession`. -/
def trySubscription (env : Env) (input : StartInput) (info : RelayInfo)
    (valuePackageSubscriptionId : Int) (accounts : Accounts) :
    Except ApiError BillingSession × Accounts :=
  let funding : SubscriptionFunding :=
    ⟨info.requestId, info.userId, input.subConsume, valuePackageSubscriptionId, 0, 0, 0, 0⟩
  match (blank info (.subscription funding)).preConsume env input input.subscriptionFaults
      input.subConsume accounts with
  | (.error e, accounts) => (.error e, accounts)
  | (.ok session, accounts) =>
    (.ok (syncRelayInfo { session with preConsumedQuota := input.subConsume }), accounts)

def hasActiveUserSubscription (db : DB) (userId appNow : Int) : Bool :=
  db.subscriptions.rows.any fun sub =>
    sub.userId = userId && sub.status = .active && appNow < sub.endTime &&
      ((db.plans.get? sub.planId).map (·.planKind)) = some .subscription

/-- A second attempt if the first one failed for want of quota. -/
def orElseIfInsufficient (first : Except ApiError BillingSession × Accounts)
    (second : Accounts → Except ApiError BillingSession × Accounts) :
    Except ApiError BillingSession × Accounts :=
  match first with
  | (.error e, accounts) =>
    if e.code = .insufficientUserQuota then second accounts else (.error e, accounts)
  | (.ok session, accounts) => (.ok session, accounts)

def newBillingSession (env : Env) (input : StartInput) (info : RelayInfo) (accounts : Accounts) :
    Except ApiError BillingSession × Accounts :=
  if info.valuePackageUseWallet then tryWallet env input info accounts
  else if 0 < info.valuePackageSubscriptionId then
    let first := trySubscription env input info info.valuePackageSubscriptionId accounts
    if info.valuePackageWalletFallback then
      -- `prepareValuePackageWalletFallback`
      orElseIfInsufficient first fun accounts =>
        tryWallet env input
          { info with valuePackageSubscriptionId := 0, valuePackageUseWallet := true } accounts
    else first
  else
    match info.billingPreference with
    | .subscriptionOnly => trySubscription env input info 0 accounts
    | .walletOnly => tryWallet env input info accounts
    | .walletFirst =>
      orElseIfInsufficient (tryWallet env input info accounts)
        fun accounts => trySubscription env input info 0 accounts
    | .subscriptionFirst =>
      if input.subscriptionCheckFails ∨ info.userId ≤ 0 then
        (.error ⟨.queryDataError, .database⟩, accounts)
      else if hasActiveUserSubscription accounts.db info.userId input.appNow then
        orElseIfInsufficient (trySubscription env input info 0 accounts)
          fun accounts => tryWallet env input info accounts
      else tryWallet env input info accounts

end BillingSession

end Yunbay
