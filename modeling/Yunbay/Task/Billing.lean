import Yunbay.Billing.FundingRun

/-!
# Billing of asynchronous tasks

`service/task_billing.go`. A task keeps the final price of its submission in `Quota`, and long after
the request it is refunded or recalculated by a difference on its funding source.
-/

namespace Yunbay

open Run

open BillingSession

/-! ## Tasks -/

/-- `tasks.status`. The constructor `other` stands for every text that has no name of its own. -/
inductive TaskStatus where
  | notStart
  | submitted
  | queued
  | inProgress
  | failure
  | success
  | unknown
  | empty
  | other (text : String)
  deriving DecidableEq

/-- `tasks.platform`, as `DispatchPlatformUpdate` tells them apart. -/
inductive TaskPlatform where
  | midjourney
  | suno
  | video (name : String)
  deriving DecidableEq

/-- `private_data.billing_source`. -/
inductive BillingSource where
  | wallet
  | subscription
  | other
  deriving DecidableEq

/-- A row of `tasks`. The private data are kept flat. -/
structure Task where
  id : Int
  taskId : String
  platform : TaskPlatform
  channelId : Int
  quota : Int
  status : TaskStatus
  failReason : String
  submitTime : Int
  startTime : Int
  finishTime : Int
  progress : String
  /-- The bytes of `data`. -/
  data : List Nat
  upstreamTaskId : String
  resultURL : String
  billingSource : BillingSource
  subscriptionId : Int
  tokenId : Int
  /-- `BillingContext.PerCallBilling`. -/
  perCallBilling : Bool
  billingSettleFailed : Bool
  deriving DecidableEq

/-! ## Adjustments -/

/-- Which calls of an adjustment fail. -/
structure TaskFaults where
  funding : Bool
  token : Bool
  /-- `resolveTokenKey` finds no key. -/
  noTokenKey : Bool

def TaskFaults.none : TaskFaults := ⟨false, false, false⟩

def taskIsSubscription (task : Task) : Bool :=
  task.billingSource = .subscription ∧ 0 < task.subscriptionId

def taskAdjustFunding (fails : Bool) (task : Task) (delta : Int) (accounts : Accounts) :
    Except AccountError Accounts :=
  if taskIsSubscription task then do
    let (_, accounts) ← accounts.runTx fails
      fun db => postConsumeUserSubscriptionDelta db task.subscriptionId delta
    pure accounts
  else if 0 < delta then accounts.decreaseUserQuota fails delta
  else accounts.increaseUserQuota fails (-delta)

/-- `taskAdjustTokenQuota`. A failure is only logged. -/
def taskAdjustTokenQuota (faults : TaskFaults) (task : Task) (delta : Int) (accounts : Accounts) :
    Accounts :=
  if task.tokenId ≤ 0 ∨ delta = 0 ∨ faults.noTokenKey then accounts
  else
    match if 0 < delta then accounts.decreaseTokenQuota faults.token delta
      else accounts.increaseTokenQuota faults.token (-delta) with
    | .error _ => accounts
    | .ok accounts => accounts

/-- The part that `RefundTaskQuota` and `RecalculateTaskQuota` share: the funding source, then the
token. The funding source decides whether the adjustment is made. -/
def taskAdjust (faults : TaskFaults) (task : Task) (delta : Int) (accounts : Accounts) :
    Option Accounts :=
  match taskAdjustFunding faults.funding task delta accounts with
  | .error _ => none
  | .ok accounts => some (taskAdjustTokenQuota faults task delta accounts)

def refundTaskQuota (faults : TaskFaults) (task : Task) (accounts : Accounts) : Accounts :=
  if task.quota = 0 then accounts
  else (taskAdjust faults task (-task.quota) accounts).getD accounts

/-- `RecalculateTaskQuota`: the task with its new quota, and the accounts. -/
def recalculateTaskQuota (faults : TaskFaults) (task : Task) (actualQuota : Int)
    (accounts : Accounts) : Task × Accounts :=
  if actualQuota ≤ 0 ∨ actualQuota = task.quota then (task, accounts)
  else
    match taskAdjust faults task (actualQuota - task.quota) accounts with
    | none => (task, accounts)
    | some accounts => ({ task with quota := actualQuota }, accounts)

/-- A later adjustment of a task's price. -/
inductive TaskAdjustment where
  | refund
  | recalculate (actualQuota : Int)
  deriving DecidableEq

namespace TaskAdjustment

def apply (faults : TaskFaults) (task : Task) (accounts : Accounts) : TaskAdjustment → Accounts
  | .refund => refundTaskQuota faults task accounts
  | .recalculate actualQuota => (recalculateTaskQuota faults task actualQuota accounts).2

/-- What the adjustment asks of the funding source. -/
def delta (task : Task) : TaskAdjustment → Int
  | .refund => -task.quota
  | .recalculate actualQuota => if actualQuota ≤ 0 then 0 else actualQuota - task.quota

/-- Both adjustments are the same, up to what they ask for. -/
lemma apply_eq (faults : TaskFaults) (task : Task) (accounts : Accounts)
    (adjustment : TaskAdjustment) :
    adjustment.apply faults task accounts =
      if adjustment.delta task = 0 then accounts
      else (taskAdjust faults task (adjustment.delta task) accounts).getD accounts := by
  cases adjustment with
  | refund => simp [apply, delta, refundTaskQuota]
  | recalculate actualQuota =>
    simp only [apply, delta, recalculateTaskQuota]
    by_cases hidle : actualQuota ≤ 0
    · simp [hidle]
    · by_cases hsame : actualQuota = task.quota
      · simp [hsame]
      · have hdelta : actualQuota - task.quota ≠ 0 := sub_ne_zero.mpr hsame
        simp only [hidle, hsame, hdelta, or_self, if_false]
        cases taskAdjust faults task (actualQuota - task.quota) accounts <;> rfl

end TaskAdjustment

/-- The token's part of an adjustment moves nothing else. -/
lemma taskAdjustTokenQuota_frame (faults : TaskFaults) (task : Task) (delta : Int)
    (accounts : Accounts) :
    ∃ remain, taskAdjustTokenQuota faults task delta accounts =
      { accounts with tokenRemain := remain } := by
  unfold taskAdjustTokenQuota
  split_ifs
  · exact ⟨_, rfl⟩
  · split
    · exact ⟨_, rfl⟩
    · rename_i after hok
      obtain ⟨-, -, rfl⟩ := Accounts.guarded_eq_ok.mp hok
      exact ⟨_, rfl⟩
  · split
    · exact ⟨_, rfl⟩
    · rename_i after hok
      obtain ⟨-, -, rfl⟩ := Accounts.guarded_eq_ok.mp hok
      exact ⟨_, rfl⟩

variable {task : Task} {accounts : Accounts}

lemma taskAdjust_subscription {faults : TaskFaults} {delta : Int}
    (htask : taskIsSubscription task = true) :
    ((taskAdjust faults task delta accounts).getD accounts).db =
      if faults.funding then accounts.db
      else Except.commit accounts.db
        (postConsumeUserSubscriptionDelta accounts.db task.subscriptionId delta) := by
  unfold taskAdjust taskAdjustFunding Accounts.runTx
  cases hfails : faults.funding with
  | true => simp [htask, bind, Except.bind]
  | false =>
    cases htx : postConsumeUserSubscriptionDelta accounts.db task.subscriptionId delta with
    | error e => simp [htask, htx, bind, Except.bind]
    | ok result =>
      obtain ⟨remain, hframe⟩ := taskAdjustTokenQuota_frame faults task delta
        { accounts with db := result.2 }
      simp [htask, htx, hframe, Except.commit, bind, Except.bind, pure, Except.pure]

/-! ## Tasks on a value package -/

/-- The adjustment does not move the use of the subscription: nothing is asked for, there is nothing
to take back, or the call fails or is rejected. -/
def MovesNothing (fails : Bool) (delta : Int) (sub : UserSubscription) : Prop :=
  fails = true ∨ delta = 0 ∨ (delta < 0 ∧ sub.amountUsed = 0) ∨
    (0 < sub.amountTotal ∧ sub.amountTotal < max 0 (sub.amountUsed + delta))

lemma TaskAdjustment.apply_subscription (faults : TaskFaults)
    {sub : UserSubscription} (htask : taskIsSubscription task = true)
    (hget : accounts.db.subscriptions.get? task.subscriptionId = some sub)
    (adjustment : TaskAdjustment) :
    ∃ after,
      (adjustment.apply faults task accounts).db.subscriptions.get? task.subscriptionId =
        some after ∧
      (adjustment.apply faults task accounts).db.usageRecords = accounts.db.usageRecords ∧
      after.id = sub.id ∧ after.quotaEpoch = sub.quotaEpoch ∧
      (after.amountUsed = sub.amountUsed ↔
        MovesNothing faults.funding (adjustment.delta task) sub) := by
  rw [adjustment.apply_eq]
  by_cases hzero : adjustment.delta task = 0
  · rw [if_pos hzero]
    exact ⟨sub, hget, rfl, rfl, rfl, iff_of_true rfl (.inr (.inl hzero))⟩
  rw [if_neg hzero, taskAdjust_subscription htask]
  cases hfails : faults.funding with
  | true =>
    rw [if_pos rfl]
    exact ⟨sub, hget, rfl, rfl, rfl, iff_of_true rfl (.inl rfl)⟩
  | false =>
    rw [if_neg Bool.false_ne_true]
    have hid : 0 < task.subscriptionId := by
      simp only [taskIsSubscription, decide_eq_true_eq] at htask
      exact htask.2
    cases htx : postConsumeUserSubscriptionDelta accounts.db task.subscriptionId
        (adjustment.delta task) with
    | error e =>
      -- the only reason left is the total
      have hfull : 0 < sub.amountTotal ∧
          sub.amountTotal < max 0 (sub.amountUsed + adjustment.delta task) := by
        by_contra hroom
        have hok := (postConsumeDelta_eq_ok hzero (u := ())).mpr
          ⟨hid, sub, hget, fun htotal => not_lt.mp fun hlt => hroom ⟨htotal, hlt⟩, rfl⟩
        rw [htx] at hok
        cases hok
      exact ⟨sub, hget, rfl, rfl, rfl, iff_of_true rfl (.inr (.inr (.inr hfull)))⟩
    | ok result =>
      obtain ⟨u, db'⟩ := result
      obtain ⟨-, sub', hget', hroom, rfl⟩ :=
        (postConsumeDelta_eq_ok hzero).mp htx
      obtain rfl : sub = sub' := Option.some.inj (hget.symm.trans hget')
      have hsubId : sub.id = task.subscriptionId := Table.key_of_get? hget
      refine ⟨chargeUsed sub (adjustment.delta task), ?_, rfl, rfl, rfl, ?_⟩
      · rw [← hsubId]
        exact Table.get?_put_self _ (chargeUsed sub (adjustment.delta task))
      · unfold MovesNothing
        have hroom' : 0 < sub.amountTotal →
            max 0 (sub.amountUsed + adjustment.delta task) ≤ sub.amountTotal := hroom
        show max 0 (sub.amountUsed + adjustment.delta task) = sub.amountUsed ↔ _
        constructor
        · intro hsame
          refine .inr (.inr (.inl ?_))
          omega
        · rintro (hfalse | hnone | hempty | hfull)
          · cases hfalse
          · exact absurd hnone hzero
          · omega
          · exact absurd hfull.2 (not_lt.mpr (hroom' hfull.1))

/-- After every run that keeps the books, a refund or recalculation of a task on a value package
leaves them in balance, and the use of any other epoch than `epoch` alone, exactly if it moves
nothing. -/
theorem task_adjustment_balanced_iff (env : Env) (db : DB) (sid : Int)
    (hfresh : FreshPackage db sid) (ops : List PackageOp)
    (hops : Along (packageStep env)
      (fun db op => NoReusedRequest sid db op ∧ NoRefundOfReReserved sid db op) db ops)
    (accounts : Accounts) (haccounts : accounts.db = exec (packageStep env) db ops)
    (task : Task) (htask : taskIsSubscription task = true) (hsid : task.subscriptionId = sid)
    (adjustment : TaskAdjustment) (faults : TaskFaults) (epoch : Int) :
    ∃ sub after, accounts.db.subscriptions.get? sid = some sub ∧
      (adjustment.apply faults task accounts).db.subscriptions.get? sid = some after ∧
      ((after.amountUsed = epochUsage (adjustment.apply faults task accounts).db after ∧
          (sub.quotaEpoch ≠ epoch → after.amountUsed = sub.amountUsed)) ↔
        MovesNothing faults.funding (adjustment.delta task) sub) := by
  obtain ⟨sub, hid, hlinked, hbalanced⟩ := balanced_of_run hfresh hops
  rw [← haccounts] at hlinked hbalanced
  have hget : accounts.db.subscriptions.get? task.subscriptionId = some sub := by
    rw [hsid, ← hid]
    exact hlinked.stored
  obtain ⟨after, hget', husage, hafterId, hepoch, hmoves⟩ :=
    TaskAdjustment.apply_subscription faults htask hget adjustment
  rw [hsid] at hget hget'
  refine ⟨sub, after, hget, hget', ?_⟩
  rw [epochUsage_congr husage hafterId hepoch, ← hbalanced, hmoves]
  exact ⟨fun h => h.1, fun h => ⟨h, fun _ => h⟩⟩

/-- A video task of user `1` that was paid `12` from the sample package. -/
def packageTask : Task where
  id := 1
  taskId := "task_1"
  platform := .video "kling"
  channelId := 1
  quota := 12
  status := .notStart
  failReason := ""
  submitTime := 2001
  startTime := 0
  finishTime := 0
  progress := "0%"
  data := []
  upstreamTaskId := "u1"
  resultURL := ""
  billingSource := .subscription
  subscriptionId := 1
  tokenId := 1
  perCallBilling := false
  billingSettleFailed := false

/-- The request of `packageTask` and its settlement, a reset card, and a request after it. -/
def taskRun : List PackageOp :=
  [.preConsume 2000 "r1" 1 1 10, .reserve 2001 "r1" 1 1 12, .consumeResetCount 2002 1 1 0,
    .preConsume 2003 "r2" 1 1 30]

/-- The accounts after `taskRun`. -/
def taskRunAccounts : Accounts := ⟨exec (packageStep sampleEnv) sampleDB taskRun, 100, 88⟩

theorem accurate_task_balanced :
    ∃ sub after, taskRunAccounts.db.subscriptions.get? 1 = some sub ∧
      ((TaskAdjustment.recalculate 12).apply .none packageTask
        taskRunAccounts).db.subscriptions.get? 1 = some after ∧
      after.amountUsed = epochUsage ((TaskAdjustment.recalculate 12).apply .none packageTask
        taskRunAccounts).db after ∧ (sub.quotaEpoch ≠ 0 → after.amountUsed = sub.amountUsed) := by
  obtain ⟨sub, after, hsub, hafter, hiff⟩ := task_adjustment_balanced_iff sampleEnv sampleDB 1
    freshPackage_sampleDB taskRun (by decide) taskRunAccounts rfl packageTask rfl rfl
    (.recalculate 12) .none 0
  exact ⟨sub, after, hsub, hafter, hiff.mpr (.inr (.inl rfl))⟩

/-- The refund of `packageTask` takes its `12` off the total of an epoch in which its request has
used nothing, and the usage records of that epoch still show `30`. -/
theorem refunded_task_unbalances_package :
    FreshPackage sampleDB 1 ∧
      taskRunAccounts.db = exec (packageStep sampleEnv) sampleDB taskRun ∧
      (taskRunAccounts.db.usageRecords.get? (1, "r1")).map (·.quotaEpoch) = some 0 ∧
      ∃ sub after, taskRunAccounts.db.subscriptions.get? 1 = some sub ∧
        (refundTaskQuota .none packageTask taskRunAccounts).db.subscriptions.get? 1 = some after ∧
        sub.quotaEpoch = 1 ∧ sub.amountUsed = 30 ∧ after.amountUsed = 18 ∧
        epochUsage (refundTaskQuota .none packageTask taskRunAccounts).db after = 30 :=
  ⟨freshPackage_sampleDB, rfl, by decide,
    { sampleSubscription with quotaEpoch := 1, amountUsed := 30 },
    { sampleSubscription with quotaEpoch := 1, amountUsed := 18 },
    by decide, by decide, rfl, rfl, rfl, by decide⟩

end Yunbay
