import Yunbay.Subscription.ResetCards

/-!
# Tables of the shop

The rows that selling a plan reads and writes beside the subscription tables: the sale columns of a
plan, the upgrade columns of a subscription, users, orders, top-ups and affiliate commissions.

The remaining columns of a plan and of a subscription are functions of the id. Amounts of money are
floating-point numbers in the source. `Money` keeps the shortest decimal of a number, which is what
`decimal.NewFromFloat` computes with.
-/

namespace Yunbay

/-! ## Rows -/

/-- `subscription_plans.duration_unit`. -/
inductive DurationUnit where
  | year
  | month
  | day
  | hour
  | custom
  | other (text : String)
  deriving DecidableEq

/-- The columns of a plan that only its sale reads. -/
structure PlanTerms where
  packageLevel : Int
  durationUnit : DurationUnit
  durationValue : Int
  customSeconds : Int
  enabled : Bool
  giftResetCount : Int
  /-- `0` for no limit. -/
  maxPurchasePerUser : Int
  upgradeGroup : String

/-- The columns of a subscription that undo the upgrade of its user. -/
structure SubscriptionUpgrade where
  upgradeGroup : String
  prevUserGroup : String

/-- A row of `users`. -/
structure User where
  id : Int
  group : String
  /-- The role is `RoleCommonUser`. -/
  isCommonUser : Bool
  inviterId : Int
  validTopupCents : Int
  validTopupHistoryCents : Int
  deriving DecidableEq

/-- A `float64` amount of money. -/
inductive Money where
  | nan
  | posInf
  | negInf
  /-- The number `unscaled / 10 ^ scale`. -/
  | finite (unscaled : Int) (scale : Nat)
  deriving DecidableEq

/-- `money <= 0`, which does not hold of a value that is not a number. -/
def Money.leZero : Money → Bool
  | .nan => false
  | .posInf => false
  | .negInf => true
  | .finite unscaled _ => unscaled ≤ 0

/-- The amount is a finite number greater than zero. -/
def Money.isFinitePositive : Money → Bool
  | .finite unscaled _ => 0 < unscaled
  | _ => false

def moneyToValidTopupCents : Money → Int
  | .finite unscaled scale =>
    if unscaled ≤ 0 then 0
    else
      let cents := (2 * (unscaled * 100) + 10 ^ scale) / (2 * 10 ^ scale)
      if maxInt64 < cents then 0 else cents
  | _ => 0

/-- The status of an order and of a top-up. -/
inductive TopUpStatus where
  | pending
  | success
  | failed
  | expired
  deriving DecidableEq

/-- An order of a plan. -/
structure SubscriptionOrder where
  tradeNo : String
  userId : Int
  planId : Int
  money : Money
  paymentMethod : String
  paymentProvider : String
  userSubscriptionId : Int
  giftResetCount : Int
  status : TopUpStatus
  deriving DecidableEq

/-- A payment into the wallet. -/
structure TopUp where
  tradeNo : String
  id : Int
  userId : Int
  /-- The quota bought, `0` for an order of a plan. -/
  amount : Int
  money : Money
  paymentMethod : String
  paymentProvider : String
  status : TopUpStatus
  deriving DecidableEq

/-- What an inviter gets for a top-up. -/
structure AffiliateCommission where
  topupId : Int
  tradeNo : String
  inviterUserId : Int
  inviteeUserId : Int
  commissionMoney : Money

/-! ## The shop -/

/-- All tables that a sale reads or writes. -/
structure Shop where
  db : DB
  terms : Int → PlanTerms
  upgrades : Int → SubscriptionUpgrade
  users : Table Int User User.id
  orders : Table String SubscriptionOrder SubscriptionOrder.tradeNo
  topUps : Table String TopUp TopUp.tradeNo
  commissions : Table Int AffiliateCommission AffiliateCommission.topupId
  /-- The auto-increment counters. -/
  lastSubscriptionId : Int
  lastTopUpId : Int

/-- What a sale takes from its surroundings. -/
structure ShopEnv where
  env : Env
  /-- `time.Unix(start, 0).AddDate(years, months, 0).Unix()` in the server's time zone. -/
  addDate : (start years months : Int) → Int
  /-- `roundAffiliateMoney(money * AffiliateCommissionRate)`. -/
  commissionMoney : Money → Money
  /-- The sum of `topUpVIPQualifiedAmount` reaches `VIPUpgradeThresholdMoney`. -/
  vipQualified : List TopUp → Bool

namespace Shop

/-- Write an order row. -/
@[simps]
def saveOrder (shop : Shop) (order : SubscriptionOrder) : Shop :=
  { shop with orders := shop.orders.put order }

/-- Write a user row. -/
@[simps]
def saveUser (shop : Shop) (user : User) : Shop := { shop with users := shop.users.put user }

/-- Write a top-up row. -/
@[simps]
def saveTopUp (shop : Shop) (topUp : TopUp) : Shop :=
  { shop with topUps := shop.topUps.put topUp, lastTopUpId := max shop.lastTopUpId topUp.id }

/-- Write a commission row. -/
@[simps]
def saveCommission (shop : Shop) (commission : AffiliateCommission) : Shop :=
  { shop with commissions := shop.commissions.put commission }

/-- Use other subscription tables. -/
@[simps]
def withDB (shop : Shop) (db : DB) : Shop := { shop with db }

/-- The id of the next top-up. -/
def nextTopUpId (shop : Shop) : Int :=
  (shop.topUps.rows.map TopUp.id).foldl max (max 0 shop.lastTopUpId) + 1

/-- The id of the next subscription. -/
def nextSubscriptionId (shop : Shop) : Int :=
  shop.db.subscriptions.nextId (max 0 shop.lastSubscriptionId)

lemma lastSubscriptionId_lt (shop : Shop) : shop.lastSubscriptionId < shop.nextSubscriptionId :=
  lt_of_le_of_lt (le_max_right 0 _) (Table.lt_nextId _ _)

lemma get?_nextSubscriptionId (shop : Shop) :
    shop.db.subscriptions.get? shop.nextSubscriptionId = none :=
  Table.get?_nextId _ _

/-- Create a subscription row with its upgrade columns. -/
@[simps]
def createSubscription (shop : Shop) (sub : UserSubscription) (upgrade : SubscriptionUpgrade) :
    Shop :=
  { shop with
    db := shop.db.saveSubscription sub
    upgrades := Function.update shop.upgrades sub.id upgrade
    lastSubscriptionId := max shop.lastSubscriptionId sub.id }

end Shop

/-- The errors of a sale. -/
inductive ShopError where
  | card (err : ResetCardError)
  | tradeNoEmpty
  | orderNotFound
  | paymentMethodMismatch
  | completedOrderWithoutSubscription
  | completedSubscriptionNotFound
  | orderStatusInvalid
  | orderPlanNotValuePackage
  | confirmationRequired
  | totalAmountNotPositive
  | limit7dAboveTotal
  | lowerLevelPackage
  | durationValueNotPositive
  | customSecondsNotPositive
  | invalidDurationUnit (text : String)
  | completedSubscriptionMissing
  | invalidPreferenceArgs
  | topUpUserMismatch
  | topUpIsBalanceRecharge
  | recordNotFound
  | invalidPlan
  | invalidUserId
  | invalidUserIdForGroup
  | targetNotValuePackage
  | planNotEnabled
  | userNotFound
  | useValuePackageFlow
  | purchaseLimitReached
  | invalidUserSubscriptionId
  deriving DecidableEq

/-- An error of the subscription tables. -/
def ShopError.tx (err : TxError) : ShopError := .card (.tx err)

/-- The text of an error. -/
def ShopError.message : ShopError → String
  | .card err => err.message
  | .tradeNoEmpty => "tradeNo is empty"
  | .orderNotFound => "subscription order not found"
  | .paymentMethodMismatch => "payment method mismatch"
  | .completedOrderWithoutSubscription => "completed order missing user subscription id"
  | .completedSubscriptionNotFound => "completed subscription not found: record not found"
  | .orderStatusInvalid => "subscription order status invalid"
  | .orderPlanNotValuePackage => "order plan is not value package"
  | .confirmationRequired => "购买高级套餐需要确认覆盖当前低级套餐"
  | .totalAmountNotPositive => "value package total_amount must be greater than zero"
  | .limit7dAboveTotal => "value package limit_7d_amount must not exceed total_amount"
  | .lowerLevelPackage => "当前已有更高等级套餐未过期，暂不能购买低等级套餐"
  | .durationValueNotPositive => "duration_value must be > 0"
  | .customSecondsNotPositive => "custom_seconds must be > 0"
  | .invalidDurationUnit text => "invalid duration_unit: " ++ text
  | .completedSubscriptionMissing => "completed subscription missing"
  | .invalidPreferenceArgs => "invalid value package preference args"
  | .topUpUserMismatch => "topup user mismatch"
  | .topUpIsBalanceRecharge => "existing topup is a balance recharge"
  | .recordNotFound => "record not found"
  | .invalidPlan => "invalid plan"
  | .invalidUserId => "invalid user id"
  | .invalidUserIdForGroup => "invalid userId"
  | .targetNotValuePackage => "目标套餐不是超值套餐"
  | .planNotEnabled => "套餐未启用"
  | .userNotFound => "用户不存在"
  | .useValuePackageFlow => "超值套餐不能通过普通订阅创建，请使用超值套餐专用流程"
  | .purchaseLimitReached => "已达到该套餐购买上限"
  | .invalidUserSubscriptionId => "invalid userSubscriptionId"

end Yunbay
