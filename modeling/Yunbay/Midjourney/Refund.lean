import Yunbay.Data.Workers
import Yunbay.Task.Billing

/-!
# Refund of Midjourney tasks

`service/midjourney_billing.go` with the transactions of `model/midjourney.go`, for one persisted
task. A task that has failed goes through the progress `REFUND_PENDING`: whoever finds it there
refunds the funding source, then the token, and then shows the final progress.

The flags are in the billing context of the row, which no other write touches. Billing logs, caches
and the columns that only describe the picture are left out.
-/

namespace Yunbay

open Except

/-! ## The task -/

/-- `MidjourneyBillingContext`, as far as it is read. -/
structure MidjourneyBillingContext where
  version : Int
  billingSource : BillingSource
  subscriptionId : Int
  requestId : String
  tokenId : Int
  fundingQuota : Int
  tokenQuota : Int
  fundingRefunded : Bool
  tokenRefunded : Bool
  billingRefunded : Bool

/-- A row of `midjourneys`. -/
structure Midjourney where
  status : String
  progress : String
  quota : Int
  billingContext : MidjourneyBillingContext

def midjourneyBillingContextVersion : Int := 1

def refundPending : String := "REFUND_PENDING"

namespace Midjourney

def fundingRefundQuota (task : Midjourney) : Int :=
  if midjourneyBillingContextVersion ≤ task.billingContext.version then
    max task.billingContext.fundingQuota 0
  else max task.quota 0

def tokenRefundQuota (task : Midjourney) : Int :=
  if task.billingContext.tokenId ≤ 0 then 0
  else if midjourneyBillingContextVersion ≤ task.billingContext.version then
    max task.billingContext.tokenQuota 0
  else max task.quota 0

/-- A task without a billing context that has cost nothing. -/
def isFree (task : Midjourney) : Bool :=
  task.billingContext.version < midjourneyBillingContextVersion && task.quota ≤ 0

end Midjourney

def completeMidjourneyFundingContext (context : MidjourneyBillingContext) (tokenQuota : Int) :
    MidjourneyBillingContext :=
  if tokenQuota ≤ 0 then
    { context with fundingRefunded := true, tokenRefunded := true, billingRefunded := true }
  else { context with fundingRefunded := true }

/-! ## Transactions -/

inductive MidjourneyError where
  | recordNotFound
  | invalidWalletRefundTask
  | invalidWalletRefundQuota
  | invalidSubscriptionRefundTask
  | invalidSubscriptionRefundQuota
  | invalidTokenRefundTask
  | invalidTokenRefundQuota

/-- The row of the task and the accounts it was paid from. The two counts are of the transactions
that have credited them. -/
structure MidjourneyStore where
  task : Midjourney
  accounts : Accounts
  fundingCredits : Nat
  tokenCredits : Nat

namespace MidjourneyStore

/-- Write the billing context of the row. -/
def setContext (store : MidjourneyStore) (context : MidjourneyBillingContext) : MidjourneyStore :=
  { store with task := { store.task with billingContext := context } }

/-- What a refund transaction returns: whether it has completed the refund, and the billing context
of the row after it. -/
abbrev RefundResult := Except MidjourneyError ((Bool × MidjourneyBillingContext) × MidjourneyStore)

/-- The transactions that refund the funding source differ in how they pay. The row is locked, so
what is read of it is what is written over. -/
def refundFundingOnce (pay : MidjourneyStore → Except MidjourneyError MidjourneyStore)
    (store : MidjourneyStore) : RefundResult :=
  let context := store.task.billingContext
  if context.fundingRefunded then pure ((false, context), store)
  else do
    let paid ← pay store
    let updated := completeMidjourneyFundingContext context store.task.tokenRefundQuota
    pure ((!context.billingRefunded && updated.billingRefunded, updated), paid.setContext updated)

/-- The update of `users.quota`. -/
def payWallet (store : MidjourneyStore) : Except MidjourneyError MidjourneyStore := do
  let refundQuota := store.task.fundingRefundQuota
  check (0 < refundQuota) .invalidWalletRefundQuota
  pure { store with
    accounts := { store.accounts with userQuota := store.accounts.userQuota + refundQuota }
    fundingCredits := store.fundingCredits + 1 }

/-- The update of `user_subscriptions.amount_used`, in one statement. -/
def payMidjourneySubscription (db : DB) (subscriptionId refundQuota : Int) :
    Except MidjourneyError DB :=
  match db.subscriptions.get? subscriptionId with
  | none => .error .recordNotFound
  | some sub => pure (db.saveSubscription { sub with amountUsed := sub.amountUsed - refundQuota })

/-- The payment of `RefundMidjourneySubscriptionFundingOnce`. -/
def paySubscription (store : MidjourneyStore) : Except MidjourneyError MidjourneyStore := do
  let refundQuota := store.task.fundingRefundQuota
  check (0 < refundQuota) .invalidSubscriptionRefundQuota
  let db ← payMidjourneySubscription store.accounts.db store.task.billingContext.subscriptionId
    refundQuota
  pure { store with
    accounts := { store.accounts with db }, fundingCredits := store.fundingCredits + 1 }

end MidjourneyStore

open MidjourneyStore

def refundMidjourneyWalletFundingOnce (task : Midjourney) (store : MidjourneyStore) :
    RefundResult := do
  check (0 < task.fundingRefundQuota) .invalidWalletRefundTask
  refundFundingOnce payWallet store

def refundMidjourneySubscriptionFundingOnce (task : Midjourney) (store : MidjourneyStore) :
    RefundResult := do
  check (0 < task.fundingRefundQuota ∧ 0 < task.billingContext.subscriptionId)
    .invalidSubscriptionRefundTask
  refundFundingOnce paySubscription store

def markMidjourneyFundingRefunded (store : MidjourneyStore) : RefundResult :=
  refundFundingOnce pure store

def refundMidjourneyTokenQuotaOnce (task : Midjourney) (store : MidjourneyStore) :
    RefundResult := do
  check (0 < task.tokenRefundQuota ∧ 0 < task.billingContext.tokenId)
    .invalidTokenRefundTask
  let context := store.task.billingContext
  if context.tokenRefunded then pure ((false, context), store)
  else do
    let refundQuota := store.task.tokenRefundQuota
    check (0 < refundQuota) .invalidTokenRefundQuota
    let updated :=
      { context with tokenRefunded := true, billingRefunded := context.fundingRefunded }
    let paid := { store with
      accounts := { store.accounts with tokenRemain := store.accounts.tokenRemain + refundQuota }
      tokenCredits := store.tokenCredits + 1 }
    pure ((!context.billingRefunded && updated.billingRefunded, updated), paid.setContext updated)

/-- The record of the request has been refunded. -/
def requestRefunded (db : DB) (requestId : String) : Bool :=
  (db.preConsumeRecords.get? requestId).any fun record => record.status = .refunded

/-- `RefundSubscriptionPreConsume` for the request of the task. It credits the subscription if the
record of the request was not refunded before. -/
def refundMidjourneyRequest (now : Int) (task : Midjourney) (store : MidjourneyStore) :
    Except TxError (Unit × MidjourneyStore) := do
  let requestId := trimSpace task.billingContext.requestId
  let (_, db) ← refundSubscriptionPreConsume store.accounts.db now requestId
  let credits := if requestRefunded store.accounts.db requestId then 0 else 1
  pure ((), { store with
    accounts := { store.accounts with db }, fundingCredits := store.fundingCredits + credits })

/-! ## Workers -/

/-- How the funding source of a task is refunded. -/
inductive FundingPath where
  /-- Nothing is to be paid. -/
  | mark
  /-- By the record of the request. -/
  | request
  | subscription
  | wallet

/-- The branch that `refundMidjourneyFunding` takes. -/
def Midjourney.fundingPath (task : Midjourney) : FundingPath :=
  if task.fundingRefundQuota ≤ 0 then .mark
  else if task.billingContext.billingSource = .subscription then
    if trimSpace task.billingContext.requestId ≠ "" then .request
    else if 0 < task.billingContext.subscriptionId then .subscription
    else .wallet
  else .wallet

/-- Where a worker is, with the task in its memory. The target is the progress to show in the end;
there is none if `RefundMidjourneyQuota` was called by itself. -/
inductive MidjourneyWork where
  /-- Before a call. -/
  | holding (task : Midjourney)
  /-- `CommitMidjourneyTaskUpdate`, before it reads the row. -/
  | load (task : Midjourney) (preStatus : String) (shouldRefund : Bool)
  /-- Before `UpdateWithStatusAndProgress`. -/
  | update (task : Midjourney) (preStatus fromProgress targetProgress : String)
      (shouldRefund : Bool)
  | fund (path : FundingPath) (task : Midjourney) (target : Option String)
  /-- Before `resolveTokenKey`. -/
  | tokenKey (task : Midjourney) (target : Option String)
  | token (task : Midjourney) (target : Option String)
  /-- Before `CompleteMidjourneyRefundProgress`. -/
  | complete (target : String)
  | done

/-- What follows a refund that has returned without an error. -/
def afterRefund : Option String → MidjourneyWork
  | none => .done
  | some target => .complete target

/-- `refundMidjourneyToken`, up to its first database step. -/
def refundMidjourneyToken (task : Midjourney) (target : Option String) : MidjourneyWork :=
  if task.billingContext.tokenId ≤ 0 ∨ task.tokenRefundQuota ≤ 0 then afterRefund target
  else .tokenKey task target

/-- `RefundMidjourneyQuota`, up to its first database step. -/
def refundMidjourneyQuota (task : Midjourney) (target : Option String) : MidjourneyWork :=
  if task.billingContext.billingRefunded then afterRefund target
  else if task.isFree then afterRefund target
  else .fund task.fundingPath task target

/-- `CommitMidjourneyTaskUpdate`, from the row it has read to its next database step. -/
def commitMidjourneyTaskUpdate (stored task : Midjourney) (preStatus : String)
    (shouldRefund : Bool) : MidjourneyWork :=
  if stored.progress = refundPending then refundMidjourneyQuota stored (some "100%")
  else if stored.progress = "100%" then .done
  else if stored.status ≠ preStatus then .done
  else
    .update { task with
        billingContext := stored.billingContext
        progress := if shouldRefund then refundPending else task.progress }
      preStatus stored.progress task.progress shouldRefund

/-- What a worker does next. A database step takes the time, and can fail. -/
inductive MidjourneyInput where
  | refund
  /-- The caller has changed the status and the progress of its task. -/
  | commit (status progress preStatus : String) (shouldRefund : Bool)
  | proceed (now : Int) (fails : Bool)

namespace MidjourneyWork

/-- A refund transaction. The task in memory gets the billing context of the row. -/
def afterTx (store : MidjourneyStore) (task : Midjourney) (fails : Bool) (result : RefundResult)
    (next : Midjourney → MidjourneyWork) : MidjourneyStore × MidjourneyWork :=
  match fails, result with
  | false, .ok ((_, updated), store) => (store, next { task with billingContext := updated })
  | _, _ => (store, .done)

/-- The database step that a worker is before. -/
def proceed (now : Int) (fails : Bool) (store : MidjourneyStore) :
    MidjourneyWork → MidjourneyStore × MidjourneyWork
  | .holding task => (store, .holding task)
  | .load task preStatus shouldRefund =>
    (store, if fails then .done
      else commitMidjourneyTaskUpdate store.task task preStatus shouldRefund)
  | .update task preStatus fromProgress targetProgress shouldRefund =>
    if !fails && store.task.status = preStatus && store.task.progress = fromProgress then
      -- every column is written but the billing context
      ({ store with task := { task with billingContext := store.task.billingContext } },
        if shouldRefund then refundMidjourneyQuota task (some targetProgress) else .done)
    else (store, .done)
  | .fund .request task target =>
    match fails, refundMidjourneyRequest now task store with
    | false, .ok (_, store) => (store, .fund .mark task target)
    | _, _ => (store, .done)
  | .fund .mark task target =>
    afterTx store task fails (markMidjourneyFundingRefunded store)
      (refundMidjourneyToken · target)
  | .fund .subscription task target =>
    afterTx store task fails (refundMidjourneySubscriptionFundingOnce task store)
      (refundMidjourneyToken · target)
  | .fund .wallet task target =>
    afterTx store task fails (refundMidjourneyWalletFundingOnce task store)
      (refundMidjourneyToken · target)
  | .tokenKey task target => (store, if fails then .done else .token task target)
  | .token task target =>
    afterTx store task fails (refundMidjourneyTokenQuotaOnce task store) fun _ =>
      afterRefund target
  | .complete target =>
    if !fails && store.task.progress = refundPending then
      ({ store with task := { store.task with progress := target } }, .done)
    else (store, .done)
  | .done => (store, .done)

def act (input : MidjourneyInput) (store : MidjourneyStore) (work : MidjourneyWork) :
    MidjourneyStore × MidjourneyWork :=
  match input, work with
  | .refund, .holding task => (store, refundMidjourneyQuota task none)
  | .commit status progress preStatus shouldRefund, .holding task =>
    (store, .load { task with status, progress } preStatus shouldRefund)
  | .proceed now fails, work => proceed now fails store work
  | _, work => (store, work)

end MidjourneyWork

/-- Any number of workers and callbacks. A worker starts with a copy of the row as it is then. -/
def midjourneyWorkers : Workers.System MidjourneyStore MidjourneyWork Unit MidjourneyInput where
  spawn _ store := .holding store.task
  act := MidjourneyWork.act

end Yunbay
