import Yunbay.Task.Billing

/-!
# The refund of a task

The end of a submission in `controller/relay.go`, and the refund of the task that it has stored. The
task carries the final price from before the settlement on, whether or not the price is then taken.
-/

namespace Yunbay

open Table

variable {task : Task} {accounts before : Accounts} {billing : Option BillingSession}
  {info : RelayInfo}

open BillingSession

/-! ## Moving an account -/

namespace FundingAccount

/-- The account is charged `amount` between two states. -/
def Moved (before after : Accounts) (amount : Int) : FundingAccount → Prop
  | .wallet => before.userQuota - after.userQuota = amount
  | .subscription id => ∃ row row', before.db.subscriptions.get? id = some row ∧
      after.db.subscriptions.get? id = some row' ∧ row'.amountUsed - row.amountUsed = amount

/-- The account is there: a subscription has a row and, as every row, a positive id. -/
def Exists (accounts : Accounts) : FundingAccount → Prop
  | .wallet => True
  | .subscription id => 0 < id ∧ ∃ row, accounts.db.subscriptions.get? id = some row

/-- The total of the subscription does not allow for a charge of `delta`. -/
def Rejects (accounts : Accounts) (delta : Int) : FundingAccount → Prop
  | .wallet => False
  | .subscription id => ∃ row, accounts.db.subscriptions.get? id = some row ∧
      0 < row.amountTotal ∧ row.amountTotal < max 0 (row.amountUsed + delta)

/-- The account shows more than `amount` that could be given back. A wallet has no such bound. -/
def Shows (accounts : Accounts) (amount : Int) : FundingAccount → Prop
  | .wallet => True
  | .subscription id =>
    ∃ row, accounts.db.subscriptions.get? id = some row ∧ amount < row.amountUsed

/-- The wallet or the use of the subscription is moved by `delta`. -/
def adjust (fails : Bool) (delta : Int) (accounts : Accounts) :
    FundingAccount → Except AccountError Accounts
  | .wallet =>
    if 0 < delta then accounts.decreaseUserQuota fails delta
    else accounts.increaseUserQuota fails (-delta)
  | .subscription id => do
    let (_, accounts) ← accounts.runTx fails
      fun db => postConsumeUserSubscriptionDelta db id delta
    pure accounts

variable {account : FundingAccount} {accounts' after : Accounts} {delta amount : Int} {fails : Bool}

/-- The movement is read off the wallet and the subscriptions. -/
lemma Moved.congr (h : account.Moved accounts accounts' amount)
    (hquota : after.userQuota = accounts'.userQuota)
    (hsubs : after.db.subscriptions = accounts'.db.subscriptions) :
    account.Moved accounts after amount := by
  cases account with
  | wallet =>
    show accounts.userQuota - after.userQuota = amount
    rw [hquota]
    exact h
  | subscription id =>
    obtain ⟨row, row', hget, hget', hused⟩ := h
    exact ⟨row, row', hget, hsubs ▸ hget', hused⟩

lemma Exists.moved_zero (h : account.Exists accounts) : account.Moved accounts accounts 0 := by
  cases account with
  | wallet => exact sub_self _
  | subscription id =>
    obtain ⟨-, row, hget⟩ := h
    exact ⟨row, row, hget, hget, sub_self _⟩

/-- The outcome of an adjustment by `delta`. Unless the call fails or the account rejects it, it
moves the account by no less than `delta`: the use of a subscription stops at zero. -/
inductive Adjusted (fails : Bool) (delta : Int) (accounts : Accounts) (account : FundingAccount) :
    Except AccountError Accounts → Prop
  | refused (e : AccountError) (hrefused : fails = true ∨ account.Rejects accounts delta) :
      Adjusted fails delta accounts account (.error e)
  | made (accounts' : Accounts) (amount : Int)
      (hmade : ¬(fails = true ∨ account.Rejects accounts delta))
      (hmoved : account.Moved accounts accounts' amount) (hle : delta ≤ amount)
      (hshows : ∀ taken, taken < -delta → (taken < -amount ↔ account.Shows accounts taken)) :
      Adjusted fails delta accounts account (.ok accounts')

lemma adjusted_wallet (fails : Bool) (delta : Int) (accounts : Accounts) :
    Adjusted fails delta accounts .wallet (adjust fails delta accounts .wallet) := by
  have hguarded : ∃ quota, 0 ≤ quota ∧ adjust fails delta accounts .wallet =
      Accounts.guarded fails quota { accounts with userQuota := accounts.userQuota - delta } := by
    unfold adjust
    dsimp only
    split_ifs with hpos
    · exact ⟨delta, hpos.le, rfl⟩
    · refine ⟨-delta, by omega, ?_⟩
      rw [Accounts.increaseUserQuota, sub_eq_add_neg]
  obtain ⟨quota, hquota, hadjust⟩ := hguarded
  rw [hadjust]
  cases fails with
  | true =>
    rw [Accounts.guarded, Except.check, if_pos hquota]
    exact .refused _ (.inl rfl)
  | false =>
    rw [Accounts.guarded_eq_ok.mpr ⟨hquota, rfl, rfl⟩]
    refine .made _ delta (by simp [Rejects]) ?_ le_rfl fun taken htaken => ?_
    · show accounts.userQuota - (accounts.userQuota - delta) = delta
      omega
    · exact iff_of_true htaken trivial

lemma adjusted_subscription {id : Int} (h : (FundingAccount.subscription id).Exists accounts)
    (hdelta : delta ≠ 0) :
    Adjusted fails delta accounts (.subscription id)
      (adjust fails delta accounts (.subscription id)) := by
  obtain ⟨hid, row, hget⟩ := h
  unfold adjust Accounts.runTx
  cases fails with
  | true => exact .refused _ (.inl rfl)
  | false =>
    by_cases hroom : 0 < row.amountTotal → (chargeUsed row delta).amountUsed ≤ row.amountTotal
    · have hok := (postConsumeDelta_eq_ok hdelta (u := ())).mpr
        ⟨hid, row, hget, hroom, rfl⟩
      dsimp only
      rw [if_neg Bool.false_ne_true, hok]
      refine .made _ (max 0 (row.amountUsed + delta) - row.amountUsed) ?_ ?_ (by omega) ?_
      · rintro (hfails | ⟨row', hget', htotal, hlt⟩)
        · cases hfails
        · obtain rfl : row = row' := Option.some.inj (hget.symm.trans hget')
          exact absurd (hroom htotal) (not_le.mpr hlt)
      · refine ⟨row, chargeUsed row delta, hget, ?_, rfl⟩
        have hrowId : row.id = id := key_of_get? hget
        rw [← hrowId]
        exact get?_put_self _ (chargeUsed row delta)
      · intro taken htaken
        constructor
        · intro hlt
          exact ⟨row, hget, by omega⟩
        · rintro ⟨row', hget', hlt⟩
          obtain rfl : row = row' := Option.some.inj (hget.symm.trans hget')
          omega
    · cases htx : postConsumeUserSubscriptionDelta accounts.db id delta with
      | error e =>
        rw [Classical.not_imp, not_le] at hroom
        have hrejects : (FundingAccount.subscription id).Rejects accounts delta :=
          ⟨row, hget, hroom⟩
        dsimp only
        rw [if_neg Bool.false_ne_true, htx]
        exact .refused _ (.inr hrejects)
      | ok result =>
        obtain ⟨u, db'⟩ := result
        obtain ⟨-, row', hget', hroom', -⟩ :=
          (postConsumeDelta_eq_ok hdelta).mp htx
        obtain rfl : row = row' := Option.some.inj (hget.symm.trans hget')
        exact absurd hroom' hroom

lemma Exists.adjusted (h : account.Exists accounts) (fails : Bool) (hdelta : delta ≠ 0) :
    Adjusted fails delta accounts account (account.adjust fails delta accounts) := by
  cases account with
  | wallet => exact adjusted_wallet fails delta accounts
  | subscription id => exact adjusted_subscription h hdelta

end FundingAccount

/-! ## The end of a submission -/

/-- What a submission hands to `finalizeSuccessfulRelayTask`. -/
structure TaskSubmit where
  /-- The id that the insert gives to the row. -/
  id : Int
  /-- The public id of the task. -/
  taskId : String
  platform : TaskPlatform
  channelId : Int
  tokenId : Int
  upstreamTaskId : String
  data : List Nat
  perCallBilling : Bool
  /-- `result.Quota`, the final price. -/
  quota : Int
  insertFails : Bool

/-- The account that pays for a request. A request for a free model has no session, and its relay
info names no billing source. -/
def billedAccount : Option BillingSession → FundingAccount
  | none => .wallet
  | some session => session.funding.account

/-- `FinalPreConsumedQuota`, or the reservation of the session. -/
def billedPreConsumed : Option BillingSession → Int
  | none => 0
  | some session => session.preConsumedQuota

/-- `PostConsumeQuota` of a request that names no subscription. -/
def postConsumeQuota (faults : Faults) (info : RelayInfo) (quota : Int) (accounts : Accounts) :
    Option AccountError × Accounts :=
  match if 0 < quota then accounts.decreaseUserQuota faults.funding quota
    else accounts.increaseUserQuota faults.funding (-quota) with
  | .error e => (some e, accounts)
  | .ok accounts => settleToken faults.token info quota accounts

/-- `SettleBilling`: the error, and the accounts. -/
def settleBilling (faults : Faults) (now : Int) (info : RelayInfo)
    (billing : Option BillingSession) (actualQuota : Int) (accounts : Accounts) :
    Option AccountError × Accounts :=
  match billing with
  | some session =>
    let (error, _, accounts) := session.settle faults now actualQuota accounts
    (error, accounts)
  | none =>
    if actualQuota - billedPreConsumed none = 0 then (none, accounts)
    else postConsumeQuota faults info (actualQuota - billedPreConsumed none) accounts

/-- `InitTask`, with the fields that `finalizeSuccessfulRelayTask` sets before the insert. -/
def initTask (submit : TaskSubmit) (now : Int) (billing : Option BillingSession) : Task where
  id := submit.id
  taskId := submit.taskId
  platform := submit.platform
  channelId := submit.channelId
  quota := submit.quota
  status := .notStart
  failReason := ""
  submitTime := now
  startTime := 0
  finishTime := 0
  progress := "0%"
  data := submit.data
  upstreamTaskId := submit.upstreamTaskId
  resultURL := ""
  billingSource :=
    match billing with
    | none => .other
    | some session =>
      match session.funding with
      | .wallet _ => .wallet
      | .subscription _ => .subscription
  subscriptionId := (billing.map (·.info.subscriptionId)).getD 0
  tokenId := submit.tokenId
  perCallBilling := submit.perCallBilling
  billingSettleFailed := false

/-- `finalizeSuccessfulRelayTask`: the task, unless its insert fails, and the accounts after the
settlement. The mark of a failed settlement is all that the task keeps of it. -/
def finalizeSuccessfulRelayTask (submit : TaskSubmit) (faults : Faults) (now : Int)
    (info : RelayInfo) (billing : Option BillingSession) (accounts : Accounts) :
    Option Task × Accounts :=
  let task := initTask submit now billing
  if submit.insertFails then (none, accounts)
  else
    let (error, accounts) := settleBilling faults now info billing submit.quota accounts
    (some { task with billingSettleFailed := error.isSome }, accounts)

/-! ## Refunds against charges -/

/-- The account of a task, as `taskAdjustFunding` tells it. -/
def Task.account (task : Task) : FundingAccount :=
  if taskIsSubscription task then .subscription task.subscriptionId else .wallet

lemma taskAdjustFunding_eq (fails : Bool) (task : Task) (delta : Int) (accounts : Accounts) :
    taskAdjustFunding fails task delta accounts = task.account.adjust fails delta accounts := by
  unfold taskAdjustFunding Task.account
  cases taskIsSubscription task <;> rfl

lemma Funding.settle_eq (fails : Bool) (funding : Funding) {delta : Int} (hdelta : delta ≠ 0)
    (accounts : Accounts) :
    funding.settle fails delta accounts = funding.account.adjust fails delta accounts := by
  unfold Funding.settle
  rw [if_neg hdelta]
  cases funding <;> rfl

/-- What a refund gives back: no more than the price of the task, and more than a smaller amount
exactly if the call goes through and the account shows more than it. -/
lemma refundTaskQuota_returned (faults : TaskFaults) (hquota : 0 ≤ task.quota)
    (hexists : task.account.Exists accounts) :
    ∃ returned,
      task.account.Moved accounts (refundTaskQuota faults task accounts) (-returned) ∧
      returned ≤ task.quota ∧
      ∀ taken, 0 ≤ taken → taken < task.quota →
        (taken < returned ↔ ¬(faults.funding = true ∨ task.account.Rejects accounts (-task.quota)) ∧
          task.account.Shows accounts taken) := by
  unfold refundTaskQuota
  by_cases hzero : task.quota = 0
  · rw [if_pos hzero]
    exact ⟨0, hexists.moved_zero, hquota, fun taken htaken hlt => by omega⟩
  rw [if_neg hzero, taskAdjust, taskAdjustFunding_eq]
  have hadjusted := hexists.adjusted faults.funding (neg_ne_zero.mpr hzero)
  revert hadjusted
  generalize task.account.adjust faults.funding (-task.quota) accounts = outcome
  intro hadjusted
  cases hadjusted with
  | refused e hrefused =>
    refine ⟨0, hexists.moved_zero, hquota, fun taken htaken _ => ?_⟩
    exact iff_of_false (not_lt.mpr htaken) fun hmade => hmade.1 hrefused
  | made accounts' amount hmade hmoved hle hshows =>
    obtain ⟨remain, hframe⟩ :=
      taskAdjustTokenQuota_frame faults task (-task.quota) accounts'
    dsimp only
    rw [hframe]
    refine ⟨-amount, ?_, by omega, fun taken _ hlt => ?_⟩
    · rw [neg_neg]
      exact hmoved.congr rfl rfl
    · rw [hshows taken (by omega)]
      exact (and_iff_right hmade).symm

/-- The billing of a request that has started on `accounts`: a session that is not on a value
package, or none at all. -/
def BillingStarted (env : Env) (input : StartInput) (info : RelayInfo)
    (accounts accounts' : Accounts) : Option BillingSession → Prop
  | none => accounts' = accounts
  | some session => newBillingSession env input info accounts = (.ok session, accounts') ∧
      session.valuePackage? = none

/-- Two accounts that agree on the wallet and on the subscriptions. -/
def SameFunding (accounts accounts' : Accounts) : Prop :=
  accounts'.userQuota = accounts.userQuota ∧ accounts'.db.subscriptions = accounts.db.subscriptions

lemma SameFunding.recorded (h : SameFunding before accounts) (fails : Bool) (now : Int)
    (info : RelayInfo) (actualQuota : Int) :
    SameFunding before (recordValuePackageUsage fails now info actualQuota accounts).2 := by
  obtain hsame | ⟨-, hrecorded⟩ :=
    recordUsage_frame fails now info actualQuota accounts
  · rw [hsame]
    exact h
  · rw [hrecorded]
    exact h

lemma SameFunding.tokenSettled (h : SameFunding before accounts) (fails : Bool) (info : RelayInfo)
    (delta : Int) : SameFunding before (settleToken fails info delta accounts).2 := by
  obtain ⟨remain, hframe⟩ := settleToken_frame fails info delta accounts
  rw [hframe]
  exact h

/-- What an adjustment leaves of the accounts; nothing is done for a difference of zero. -/
def adjustedOr (fails : Bool) (delta : Int) (accounts : Accounts) (account : FundingAccount) :
    Accounts :=
  if delta = 0 then accounts
  else
    match account.adjust fails delta accounts with
    | .error _ => accounts
    | .ok accounts => accounts

lemma settle_sameFunding {session : BillingSession} (hsettled : session.settled = false)
    (hfunding : session.fundingSettled = false) (hregular : session.valuePackage? = none)
    (faults : Faults) (now actualQuota : Int) (accounts : Accounts) :
    SameFunding
      (adjustedOr faults.funding (actualQuota - session.preConsumedQuota) accounts
        session.funding.account)
      (session.settle faults now actualQuota accounts).2.2 := by
  have hopen : ¬session.settled = true := by simp [hsettled]
  have hunsettled : ¬session.fundingSettled = true := by simp [hfunding]
  unfold BillingSession.settle adjustedOr
  rw [if_neg hopen]
  dsimp only
  by_cases hzero : actualQuota - session.preConsumedQuota = 0
  · rw [if_pos hzero, if_pos hzero]
    exact SameFunding.recorded ⟨rfl, rfl⟩ _ _ _ _
  · rw [if_neg hzero, if_neg hzero, BillingSession.settleFunding, if_neg hunsettled, hregular]
    dsimp only
    rw [session.funding.settle_eq faults.funding hzero]
    cases session.funding.account.adjust faults.funding (actualQuota - session.preConsumedQuota)
        accounts with
    | error e => exact ⟨rfl, rfl⟩
    | ok settled =>
      have hsame : SameFunding settled settled := ⟨rfl, rfl⟩
      exact (hsame.tokenSettled _ _ _).recorded _ _ _ _

/-- A settlement without a session is an adjustment of the wallet. -/
lemma postConsumeQuota_sameFunding (faults : Faults) (info : RelayInfo) (quota : Int)
    (hquota : quota ≠ 0) (accounts : Accounts) :
    SameFunding (adjustedOr faults.funding quota accounts .wallet)
      (postConsumeQuota faults info quota accounts).2 := by
  unfold postConsumeQuota adjustedOr FundingAccount.adjust
  rw [if_neg hquota]
  dsimp only
  cases if 0 < quota then accounts.decreaseUserQuota faults.funding quota
      else accounts.increaseUserQuota faults.funding (-quota) with
  | error e => exact ⟨rfl, rfl⟩
  | ok settled =>
    have hsame : SameFunding settled settled := ⟨rfl, rfl⟩
    exact hsame.tokenSettled _ _ _

/-- A session that can still be settled, and is not on a value package. -/
structure Settleable (session : BillingSession) : Prop where
  unsettled : session.settled = false
  fundingUnsettled : session.fundingSettled = false
  regular : session.valuePackage? = none

lemma settleBilling_sameFunding (hbilling : ∀ session, billing = some session → Settleable session)
    (faults : Faults) (now : Int) (info : RelayInfo) (actualQuota : Int) (accounts : Accounts) :
    SameFunding
      (adjustedOr faults.funding (actualQuota - billedPreConsumed billing) accounts
        (billedAccount billing))
      (settleBilling faults now info billing actualQuota accounts).2 := by
  cases billing with
  | none =>
    unfold settleBilling
    dsimp only
    split_ifs with hzero
    · rw [adjustedOr, if_pos hzero]
      exact ⟨rfl, rfl⟩
    · exact postConsumeQuota_sameFunding faults info _ hzero accounts
  | some session =>
    obtain ⟨hsettled, hfunding, hregular⟩ := hbilling session rfl
    exact settle_sameFunding hsettled hfunding hregular faults now actualQuota accounts

/-- What a settlement takes on top of the reservation: nothing if the price is above the reservation
and the settlement fails, and up to the price otherwise. -/
lemma settleBilling_charged (hbilling : ∀ session, billing = some session → Settleable session)
    (hexists : (billedAccount billing).Exists accounts) (faults : Faults) (now : Int)
    (info : RelayInfo) (actualQuota : Int) :
    ∃ charge,
      (billedAccount billing).Moved accounts
        (settleBilling faults now info billing actualQuota accounts).2 charge ∧
      (billedPreConsumed billing < actualQuota → (faults.funding = true ∨
        (billedAccount billing).Rejects accounts (actualQuota - billedPreConsumed billing)) →
          charge = 0) ∧
      (¬(billedPreConsumed billing < actualQuota ∧ (faults.funding = true ∨
        (billedAccount billing).Rejects accounts (actualQuota - billedPreConsumed billing))) →
          actualQuota ≤ billedPreConsumed billing + charge) := by
  obtain ⟨hquota, hsubs⟩ :=
    settleBilling_sameFunding hbilling faults now info actualQuota accounts
  suffices hcharge : ∃ charge, (billedAccount billing).Moved accounts
      (adjustedOr faults.funding (actualQuota - billedPreConsumed billing) accounts
        (billedAccount billing)) charge ∧ _ from
    hcharge.imp fun charge h => ⟨h.1.congr hquota hsubs, h.2⟩
  unfold adjustedOr
  by_cases hzero : actualQuota - billedPreConsumed billing = 0
  · rw [if_pos hzero]
    exact ⟨0, hexists.moved_zero, fun _ _ => rfl, fun _ => by omega⟩
  rw [if_neg hzero]
  have hadjusted := hexists.adjusted faults.funding hzero
  revert hadjusted
  generalize (billedAccount billing).adjust faults.funding
    (actualQuota - billedPreConsumed billing) accounts = outcome
  intro hadjusted
  cases hadjusted with
  | refused e hrefused =>
    refine ⟨0, hexists.moved_zero, fun _ _ => rfl, fun hdown => ?_⟩
    have hle : ¬billedPreConsumed billing < actualQuota := fun hlt => hdown ⟨hlt, hrefused⟩
    omega
  | made accounts' amount hmade hmoved hle hshows =>
    exact ⟨amount, hmoved, fun _ hfails => absurd hfails hmade, fun _ => by omega⟩

/-- The balance of the account before the request. -/
def billedBase (before : Accounts) : Option BillingSession → Int
  | none => before.userQuota
  | some session => session.funding.base before

/-- A billing that has started has taken its reservation, can be settled, and the task that is made
of it finds its account again. -/
lemma BillingStarted.charged {env : Env} {input : StartInput} {accounts' : Accounts}
    (hquota : 0 ≤ input.walletConsume)
    (hfresh : accounts.db.preConsumeRecords.get? info.requestId = none)
    (hrows : ∀ sub ∈ accounts.db.subscriptions.rows, 0 < sub.id ∧ 0 ≤ sub.amountUsed)
    (h : BillingStarted env input info accounts accounts' billing) :
    (billedAccount billing).Charged (billedBase accounts billing) accounts'
        (billedPreConsumed billing) ∧
      0 ≤ billedPreConsumed billing ∧
      (∀ session, billing = some session → Settleable session) ∧
      ∀ submit now, (initTask submit now billing).account = billedAccount billing := by
  cases billing with
  | none =>
    obtain rfl := h
    refine ⟨sub_self _, le_rfl, ?_, fun _ _ => rfl⟩
    intro session hnone
    cases hnone
  | some session =>
    obtain ⟨hstart, hregular⟩ := h
    obtain ⟨hopen, hcontrol, hleg, hrow⟩ := openLeg_start hquota hfresh
      (fun sub hmem => (hrows sub hmem).2) hstart hregular
    refine ⟨hleg.held.charged, hcontrol.nonneg, ?_, fun submit now => ?_⟩
    · rintro _ ⟨⟩
      exact ⟨hopen.1, hcontrol.fundingSettled_eq_false hopen.1, hregular⟩
    · have hsynced := hleg.synced
      unfold Task.account taskIsSubscription initTask billedAccount
      cases hkind : session.funding with
      | wallet source => simp [hkind, Funding.account]
      | subscription sub =>
        rw [hkind] at hsynced hrow
        obtain ⟨row, hget, -⟩ := hrow sub.subscriptionId rfl
        have hid : 0 < sub.subscriptionId := by
          rw [← key_of_get? hget]
          exact (hrows row (mem_of_get? hget)).1
        simp [hkind, hsynced sub.subscriptionId rfl, hid, Funding.account]

/-- An accepted task has the final price, whatever came of its settlement. -/
lemma finalizeTask_accepted {submit : TaskSubmit} {faults : Faults} {now : Int} {settled : Accounts}
    (h : finalizeSuccessfulRelayTask submit faults now info billing before = (some task, settled)) :
    task.quota = submit.quota ∧ task.account = (initTask submit now billing).account ∧
      settled = (settleBilling faults now info billing submit.quota before).2 := by
  unfold finalizeSuccessfulRelayTask at h
  dsimp only at h
  split_ifs at h with hinsert
  · cases h
  · cases h
    exact ⟨rfl, rfl, rfl⟩

/-- The refund of a task that `finalizeSuccessfulRelayTask` has accepted gives back no more than the
request has taken, unless the price is above the reservation, the settlement fails, the refund goes
through, and the account shows more than the reservation. Other requests may move the accounts in
between. -/
theorem task_refund_le_charged_iff (env : Env) (input : StartInput) (info : RelayInfo)
    (accounts held before : Accounts) (billing : Option BillingSession)
    (hquota : 0 ≤ input.walletConsume)
    (hfresh : accounts.db.preConsumeRecords.get? info.requestId = none)
    (hrows : ∀ sub ∈ accounts.db.subscriptions.rows, 0 < sub.id ∧ 0 ≤ sub.amountUsed)
    (hstart : BillingStarted env input info accounts held billing)
    (hbefore : (billedAccount billing).Exists before)
    (submit : TaskSubmit) (hprice : 0 ≤ submit.quota) (faults : Faults) (now : Int)
    (task : Task) (settled : Accounts)
    (haccepted : finalizeSuccessfulRelayTask submit faults now info billing before =
      (some task, settled))
    (later : Accounts) (hlater : (billedAccount billing).Exists later) (taskFaults : TaskFaults) :
    ∃ charge returned,
      (billedAccount billing).Charged (billedBase accounts billing) held
        (billedPreConsumed billing) ∧
      (billedAccount billing).Moved before settled charge ∧
      (billedAccount billing).Moved later (refundTaskQuota taskFaults task later) (-returned) ∧
      (returned ≤ billedPreConsumed billing + charge ↔
        ¬(billedPreConsumed billing < submit.quota ∧
          (faults.funding = true ∨ (billedAccount billing).Rejects before
            (submit.quota - billedPreConsumed billing)) ∧
          ¬(taskFaults.funding = true ∨
            (billedAccount billing).Rejects later (-submit.quota)) ∧
          (billedAccount billing).Shows later (billedPreConsumed billing))) := by
  obtain ⟨hcharged, hnonneg, hsettleable, haccount⟩ := hstart.charged hquota hfresh hrows
  obtain ⟨charge, hmoved, hfailed, hmade⟩ :=
    settleBilling_charged hsettleable hbefore faults now info submit.quota
  obtain ⟨htaskQuota, htaskAccount, rfl⟩ := finalizeTask_accepted haccepted
  rw [haccount] at htaskAccount
  rw [← htaskAccount] at hlater
  obtain ⟨returned, hreturned, hle, hexceeds⟩ :=
    refundTaskQuota_returned taskFaults (htaskQuota ▸ hprice) hlater
  rw [htaskQuota] at hle hexceeds
  rw [htaskAccount] at hreturned hexceeds
  refine ⟨charge, returned, hcharged, hmoved, hreturned, ?_⟩
  constructor
  · rintro hbound ⟨hraise, hfails, hthrough⟩
    -- nothing but the reservation was taken, and more than it comes back
    have hzero := hfailed hraise hfails
    have hmore := (hexceeds _ hnonneg hraise).mpr hthrough
    omega
  · intro hsafe
    by_cases hfails : billedPreConsumed billing < submit.quota ∧ (faults.funding = true ∨
        (billedAccount billing).Rejects before (submit.quota - billedPreConsumed billing))
    · have hzero := hfailed hfails.1 hfails.2
      have hless : ¬billedPreConsumed billing < returned := fun hmore =>
        hsafe ⟨hfails.1, hfails.2, (hexceeds _ hnonneg hfails.1).mp hmore⟩
      omega
    · have htaken := hmade hfails
      omega

/-- A submission of the sample request, at a final price of `25`. -/
def sampleSubmit : TaskSubmit :=
  ⟨1, "task_1", .video "kling", 1, 1, "u1", [], false, 25, false⟩

/-- The task of `sampleSubmit`. -/
def sampleTask : Task := initTask sampleSubmit 2000 (some sampleSession)

theorem settled_task_refund_le_charged :
    ∃ charge returned, FundingAccount.wallet.Charged 100 sampleHeld 10 ∧
      FundingAccount.wallet.Moved sampleHeld ⟨sampleDB, 75, 75⟩ charge ∧
      FundingAccount.wallet.Moved ⟨sampleDB, 75, 75⟩
        (refundTaskQuota .none sampleTask ⟨sampleDB, 75, 75⟩) (-returned) ∧
      returned ≤ 10 + charge := by
  obtain ⟨charge, returned, hcharged, hmoved, hreturned, hbound⟩ :=
    task_refund_le_charged_iff sampleEnv sampleInput sampleInfo sampleAccounts sampleHeld sampleHeld
      (some sampleSession) (by decide) rfl (by decide) ⟨rfl, rfl⟩ trivial sampleSubmit (by decide)
      .none 2000 sampleTask ⟨sampleDB, 75, 75⟩ rfl ⟨sampleDB, 75, 75⟩ trivial .none
  refine ⟨charge, returned, hcharged, hmoved, hreturned, hbound.mpr ?_⟩
  rintro ⟨-, hfails | hrejects, -⟩
  · cases hfails
  · exact hrejects

/-- The settlement of the final price fails, so that the request has taken its reservation of `10`.
The refund gives back `25`. -/
theorem unsettled_task_refunds_too_much :
    newBillingSession sampleEnv sampleInput sampleInfo sampleAccounts =
        (.ok sampleSession, sampleHeld) ∧
      sampleSession.preConsumedQuota = 10 ∧
      ∃ task settled, finalizeSuccessfulRelayTask sampleSubmit ⟨true, false, false, false⟩ 2000
          sampleInfo (some sampleSession) sampleHeld = (some task, settled) ∧
        task.billingSettleFailed = true ∧
        sampleAccounts.userQuota - settled.userQuota = 10 ∧
        (refundTaskQuota .none task settled).userQuota - settled.userQuota = 25 :=
  ⟨rfl, rfl, _, _, rfl, rfl, rfl, rfl⟩

end Yunbay
