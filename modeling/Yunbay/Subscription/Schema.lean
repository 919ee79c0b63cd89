import Mathlib.Data.List.DropRight
import Yunbay.Data.Run
import Yunbay.Data.Table

/-!
# Subscription tables

The rows of the subscription subsystem (`model/subscription.go`) and the database that holds
them, with the columns that the modelled transactions read. Enumerated string columns are inductive
types whose constructor `other` stands for every remaining string. The `int64` columns are unbounded
here: sums of quotas, and of a time and the length of a period, are assumed to fit.

A transaction is a function of the database that returns `Except TxError (result × DB)`; an
error stands for a rollback. `TxError.message` is the text the source attaches to it.
-/

namespace Yunbay

/-- The greatest value of an `int64`, and of an `int`. -/
def maxInt64 : Int := 9223372036854775807

/-- The value of a sum, difference or product in Go's `int`. -/
def wrapInt (n : Int) : Int := n.bmod (2 ^ 64)

/-- A sum in the range of `int` is exact. -/
lemma wrapInt_eq {n : Int} (hlow : -maxInt64 - 1 ≤ n) (hhigh : n ≤ maxInt64) : wrapInt n = n := by
  unfold maxInt64 at hlow hhigh
  unfold wrapInt
  rw [Int.bmod_eq_of_le] <;> omega

lemma wrapInt_le (n : Int) : wrapInt n ≤ maxInt64 := by
  unfold wrapInt maxInt64
  rw [Int.bmod_eq_emod]
  split_ifs <;> omega

/-- A sum of two values above the range is negative. -/
lemma wrapInt_neg {n : Int} (hhigh : maxInt64 < n) (hlt : n ≤ maxInt64 + maxInt64) :
    wrapInt n < 0 := by
  unfold maxInt64 at hhigh hlt
  unfold wrapInt
  rw [Int.bmod_eq_emod, if_pos (by omega)]
  omega

/-- Go's `unicode.IsSpace`. -/
def isSpace (c : Char) : Bool :=
  let n := c.toNat
  (9 ≤ n && n ≤ 13) || (0x2000 ≤ n && n ≤ 0x200A) ||
    [0x20, 0x85, 0xA0, 0x1680, 0x2028, 0x2029, 0x202F, 0x205F, 0x3000].contains n

def trimSpace (s : String) : String :=
  String.ofList ((s.toList.dropWhile isSpace).reverse.dropWhile isSpace).reverse

/-- What is left after trimming both ends has nothing to trim in front. -/
lemma dropWhile_rdropWhile {α : Type} (p : α → Bool) (l : List α) :
    ((l.dropWhile p).rdropWhile p).dropWhile p = (l.dropWhile p).rdropWhile p := by
  rw [List.dropWhile_eq_self_iff]
  intro hpos hp
  -- the first element that is left is the first one after the front has been dropped
  have hfront := List.rdropWhile_prefix p (l.dropWhile p)
  rw [hfront.getElem hpos] at hp
  exact List.dropWhile_get_zero_not p l (hpos.trans_le hfront.length_le) hp

lemma trimSpace_trimSpace (s : String) : trimSpace (trimSpace s) = trimSpace s := by
  have htrim (t : String) :
      trimSpace t = String.ofList ((t.toList.dropWhile isSpace).rdropWhile isSpace) := rfl
  rw [htrim (trimSpace s), htrim s, String.toList_ofList, dropWhile_rdropWhile,
    List.rdropWhile_idempotent]

/-- `strings.TrimSpace(s) == ""`. -/
def isBlank (s : String) : Bool := s.toList.all isSpace

/-- `subscription_plans.plan_kind`. -/
inductive PlanKind where
  | subscription
  | valuePackage
  | other
  deriving DecidableEq

/-- `subscription_plans.package_type`. -/
inductive PackageType where
  | day
  | week
  | month
  | other
  deriving DecidableEq

/-- `subscription_plans.quota_reset_period` after `NormalizeResetPeriod`. -/
inductive ResetPeriod where
  | never
  | daily
  | weekly
  | monthly
  | custom
  deriving DecidableEq

/-- `user_subscriptions.status`. -/
inductive SubscriptionStatus where
  | active
  | expired
  | cancelled
  | covered
  deriving DecidableEq

/-- `subscription_pre_consume_records.status`. -/
inductive PreConsumeStatus where
  | consumed
  | refunded
  deriving DecidableEq

/-- `value_package_quota_resets.source`. -/
inductive QuotaResetSource where
  | userConsumeCount
  | adminManualReset
  | cycleRenewal
  | packageRenewal
  deriving DecidableEq

/-- A plan on sale. -/
structure SubscriptionPlan where
  id : Int
  planKind : PlanKind
  packageType : PackageType
  limit5hAmount : Int
  limit7dAmount : Int
  /-- Total quota in quota units, `0` meaning unlimited. -/
  totalAmount : Int
  quotaResetPeriod : ResetPeriod
  quotaResetCustomSeconds : Int
  deriving DecidableEq

/-- A plan that a user has bought. -/
structure UserSubscription where
  id : Int
  userId : Int
  planId : Int
  amountTotal : Int
  amountUsed : Int
  quotaEpoch : Int
  startTime : Int
  endTime : Int
  status : SubscriptionStatus
  lastResetTime : Int
  nextResetTime : Int
  createdAt : Int
  deriving DecidableEq

/-- The idempotency record of one request's pre-consume. -/
structure SubscriptionPreConsumeRecord where
  requestId : String
  userId : Int
  userSubscriptionId : Int
  preConsumed : Int
  quotaEpoch : Int
  status : PreConsumeStatus
  updatedAt : Int

/-- What one request has used of a value package, in the quota epoch it was admitted in. -/
structure ValuePackageUsageRecord where
  userId : Int
  userSubscriptionId : Int
  requestId : String
  quota : Int
  quotaEpoch : Int
  createdAt : Int
  deriving DecidableEq

/-- The unique index of `value_package_usage_records`. -/
def ValuePackageUsageRecord.key (record : ValuePackageUsageRecord) : Int × String :=
  (record.userSubscriptionId, record.requestId)

/-- An entry of the ledger of resets. -/
structure ValuePackageQuotaReset where
  userId : Int
  userSubscriptionId : Int
  resetAt : Int
  fromEpoch : Int
  toEpoch : Int
  amountUsedBefore : Int
  source : QuotaResetSource

/-- The package a user has chosen. -/
structure UserValuePackagePreference where
  userId : Int
  enabled : Bool
  activeUserSubscriptionId : Int
  resetCount : Int

/-- One line of the reset-card journal. -/
structure ValuePackageResetCountLedger where
  userId : Int
  delta : Int
  beforeCount : Int
  afterCount : Int

/-- The tables. Rows stand in the order of their primary keys. -/
structure DB where
  plans : Table Int SubscriptionPlan SubscriptionPlan.id
  subscriptions : Table Int UserSubscription UserSubscription.id
  preConsumeRecords :
    Table String SubscriptionPreConsumeRecord SubscriptionPreConsumeRecord.requestId
  usageRecords : Table (Int × String) ValuePackageUsageRecord ValuePackageUsageRecord.key
  quotaResets : List ValuePackageQuotaReset
  preferences : Table Int UserValuePackagePreference UserValuePackagePreference.userId
  resetCountLedger : List ValuePackageResetCountLedger

namespace DB

/-- Write a subscription row. -/
@[simps]
def saveSubscription (db : DB) (sub : UserSubscription) : DB :=
  { db with subscriptions := db.subscriptions.put sub }

/-- Write a pre-consume record. -/
@[simps]
def savePreConsume (db : DB) (record : SubscriptionPreConsumeRecord) : DB :=
  { db with preConsumeRecords := db.preConsumeRecords.put record }

/-- Write a usage record. -/
@[simps]
def saveUsage (db : DB) (record : ValuePackageUsageRecord) : DB :=
  { db with usageRecords := db.usageRecords.put record }

/-- Append a reset row. -/
@[simps]
def createQuotaReset (db : DB) (reset : ValuePackageQuotaReset) : DB :=
  { db with quotaResets := db.quotaResets ++ [reset] }

/-- Write a preference row. -/
@[simps]
def savePreference (db : DB) (pref : UserValuePackagePreference) : DB :=
  { db with preferences := db.preferences.put pref }

/-- Append a line to the reset-card journal. -/
@[simps]
def createResetCountLedger (db : DB) (line : ValuePackageResetCountLedger) : DB :=
  { db with resetCountLedger := db.resetCountLedger ++ [line] }

end DB

/-- The errors a subscription transaction can return. -/
inductive TxError where
  | recordNotFound
  | invalidUserId
  | invalidUserSubscriptionId
  | requestIdEmpty
  | amountNotPositive
  | targetQuotaNegative
  | noActiveSubscription
  | invalidPlanId
  | notValuePackage
  | preConsumeRequestMismatch
  | preConsumeAlreadyRefunded
  | usageEpochMismatch
  | quotaEpochOverflow
  | invalidUsageRecord
  /-- The total quota cannot cover the request. -/
  | quotaInsufficient (need : Int)
  | limit5hExceeded (need : Int)
  | limit7dExceeded (need : Int)
  /-- No regular subscription of the user can cover the request. -/
  | subscriptionQuotaInsufficient (need : Int)
  | usedExceedsTotal (used total : Int)
  | invalidUserIdForReset
  | resetCountInsufficient
  | valuePackageNotEnabled
  | activePackageMismatch
  | noResettablePackage
  | invalidSubscriptionId
  | invalidPlanTotal
  | invalidPurchaseDuration
  | subscriptionNotActive
  | endTimeOverflow
  /-- The reset loop of a regular subscription has not ended within the model's fuel. A
  transaction that does not end commits nothing, so it is an abort like the others. -/
  | resetLoopRunning
  deriving DecidableEq

def valuePackageQuotaExhaustedUserMessage : String :=
  "当前余额已用完，建议暂停使用，使用 API 或等时间跑完再使用"

/-- The text of an error. -/
def TxError.message : TxError → String
  | .recordNotFound => "record not found"
  | .invalidUserId => "invalid userId"
  | .invalidUserSubscriptionId => "invalid userSubscriptionId"
  | .requestIdEmpty => "requestId is empty"
  | .amountNotPositive => "amount must be > 0"
  | .targetQuotaNegative => "targetQuota must be non-negative"
  | .noActiveSubscription => "no active subscription"
  | .invalidPlanId => "invalid plan id"
  | .notValuePackage => "subscription is not value package"
  | .preConsumeRequestMismatch => "subscription pre-consume request mismatch"
  | .preConsumeAlreadyRefunded => "subscription pre-consume already refunded"
  | .usageEpochMismatch => "value package usage epoch mismatch"
  | .quotaEpochOverflow => "value package quota epoch overflow"
  | .invalidUsageRecord =>
    "invalid value package usage record: requestId, userId and userSubscriptionId are " ++
      "required; quota must be non-negative"
  | .quotaInsufficient need =>
    "subscription quota insufficient: " ++ valuePackageQuotaExhaustedUserMessage ++
      ", need=" ++ toString need
  | .limit5hExceeded need =>
    "subscription quota insufficient: " ++ valuePackageQuotaExhaustedUserMessage ++
      ", 5h limit exceeded, need=" ++ toString need
  | .limit7dExceeded need =>
    "subscription quota insufficient: " ++ valuePackageQuotaExhaustedUserMessage ++
      ", 7d period limit exceeded, need=" ++ toString need
  | .subscriptionQuotaInsufficient need =>
    "subscription quota insufficient, need=" ++ toString need
  | .usedExceedsTotal used total =>
    "subscription used exceeds total, used=" ++ toString used ++ " total=" ++ toString total
  | .invalidUserIdForReset => "invalid user id"
  | .resetCountInsufficient => "重置次数不足"
  | .valuePackageNotEnabled => "请先启用超值套餐后再重置额度"
  | .activePackageMismatch => "当前套餐不匹配，请刷新后重试"
  | .noResettablePackage => "当前没有可重置的超值套餐"
  | .invalidSubscriptionId => "invalid subscription id"
  | .invalidPlanTotal => "invalid value package plan total"
  | .invalidPurchaseDuration => "invalid value package purchase duration"
  | .subscriptionNotActive => "value package subscription is not active"
  | .endTimeOverflow => "value package subscription end time overflow"
  | .resetLoopRunning => ""

def SubscriptionPlan.isValuePackage (plan : SubscriptionPlan) : Bool :=
  plan.planKind = .valuePackage

/-- `normalizeValuePackagePlan` on the columns kept here: an empty kind is a subscription (the
parsed column already says so), and only month packages keep a 7d limit. -/
def normalizeValuePackagePlan (plan : SubscriptionPlan) : SubscriptionPlan :=
  if plan.isValuePackage then
    match plan.packageType with
    | .day => { plan with limit7dAmount := 0 }
    | .week => { plan with limit7dAmount := 0 }
    | .month => plan
    | .other => plan
  else plan

/-- `getSubscriptionPlanByIdTx` followed by `normalizeValuePackagePlan`. -/
def getSubscriptionPlanByIdTx (db : DB) (id : Int) : Except TxError SubscriptionPlan := do
  Except.check (0 < id) .invalidPlanId
  match db.plans.get? id with
  | none => .error .recordNotFound
  | some plan => pure (normalizeValuePackagePlan plan)

@[simp]
lemma normalizePlan_isValuePackage (plan : SubscriptionPlan) :
    (normalizeValuePackagePlan plan).isValuePackage = plan.isValuePackage := by
  unfold normalizeValuePackagePlan
  split_ifs
  · split <;> rfl
  · rfl

variable {db : DB} {id : Int} {plan : SubscriptionPlan}

lemma planById_eq_ok :
    getSubscriptionPlanByIdTx db id = .ok plan ↔
      0 < id ∧ ∃ row, db.plans.get? id = some row ∧ normalizeValuePackagePlan row = plan := by
  unfold getSubscriptionPlanByIdTx
  rw [Except.bind_eq_ok]
  cases db.plans.get? id <;> simp

lemma planById_id
    (h : getSubscriptionPlanByIdTx db id = .ok plan) : plan.id = id := by
  obtain ⟨-, row, hrow, rfl⟩ := planById_eq_ok.mp h
  have hkey : row.id = id := Table.key_of_get? hrow
  unfold normalizeValuePackagePlan
  split_ifs
  · split <;> exact hkey
  · exact hkey

lemma planById_congr {db' : DB} (hplans : db'.plans = db.plans) (id : Int) :
    getSubscriptionPlanByIdTx db' id = getSubscriptionPlanByIdTx db id := by
  unfold getSubscriptionPlanByIdTx
  rw [hplans]

end Yunbay
