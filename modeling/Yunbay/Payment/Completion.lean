import Yunbay.Redemption.Redeem

/-!
# Completing a paid order

When a payment provider reports a payment, its completion function reads the order, checks that it
is pending, saves it as a success and adds the quota, in one transaction. An administrator can
complete an order by hand, and `UpdatePendingTopUpStatus` closes one that was not paid.

The reads ask for a lock with `tx.Set("gorm:query_option", "FOR UPDATE")`, which gorm v2 ignores;
only `RechargeEpay` locks the row. The mutex `LockOrder` excludes calls in the same process only. So
other transactions may complete the order between the read and the save.
-/

namespace Yunbay

open Except Run Table

variable {quota : Int} {copy : PaymentCopy} {expected : String}

/-! ## The functions -/

/-- What the completion functions take from their surroundings. -/
structure PaymentEnv where
  shop : ShopEnv
  /-- `int(amount * QuotaPerUnit)`, computed in decimals. -/
  amountQuota : Int → Int
  /-- `int(money * QuotaPerUnit)`, computed in decimals. -/
  moneyQuota : Money → Int
  /-- `money * QuotaPerUnit`, computed in floating point and stored as an integer. -/
  floatQuota : Money → Int

inductive PaymentError where
  | tradeNoMissing
  | topUpNotFound
  | orderNotFound
  | paymentMethodMismatch
  | topUpStatusInvalid
  | orderStatusInvalid
  | invalidQuota
  | userNotFound
  /-- `超值套餐仅支持联动小铺购买` -/
  | valuePackagePlan
  | shop (err : ShopError)

/-- A call of one of the functions on an order that is given otherwise. -/
inductive PaymentCall where
  /-- `Recharge`, for Stripe. -/
  | recharge
  /-- `RechargeEpay`, which locks the row if the database is not SQLite. -/
  | rechargeEpay (actualPaymentMethod : String) (locks : Bool)
  | rechargeCreem (customerEmail : String)
  | rechargeWaffo
  | rechargeWaffoPancake
  | manualCompleteTopUp
  | updatePendingTopUpStatus (expectedPaymentProvider : String) (targetStatus : TopUpStatus)
  | completeSubscriptionOrder (times : SaleTimes)
      (expectedPaymentProvider actualPaymentMethod : String)

/-- How a completion function of a top-up differs from the others. -/
structure RechargeTerms where
  /-- The provider it asks for. -/
  provider : Option String
  /-- An order that is a success already is not an error. -/
  idempotent : Bool
  quota : TopUp → Int
  /-- A quota that is not positive is refused before the order is saved. -/
  checksQuota : Bool

def rechargeTerms (env : PaymentEnv) : RechargeTerms :=
  ⟨some "stripe", false, fun topUp => env.floatQuota topUp.money, false⟩

def rechargeEpayTerms (env : PaymentEnv) : RechargeTerms :=
  ⟨some "epay", true, fun topUp => env.amountQuota topUp.amount, false⟩

/-- Creem takes the amount for the quota. -/
def rechargeCreemTerms : RechargeTerms := ⟨some "creem", false, TopUp.amount, false⟩

def rechargeWaffoTerms (env : PaymentEnv) : RechargeTerms :=
  ⟨some "waffo", true, fun topUp => env.amountQuota topUp.amount, true⟩

def rechargeWaffoPancakeTerms (env : PaymentEnv) : RechargeTerms :=
  ⟨some "waffo_pancake", true, fun topUp => env.amountQuota topUp.amount, true⟩

def manualCompleteTopUpTerms (env : PaymentEnv) : RechargeTerms where
  provider := none
  idempotent := true
  quota topUp :=
    if topUp.paymentProvider = "stripe" then env.moneyQuota topUp.money
    else env.amountQuota topUp.amount
  checksQuota := true

/-- What a call goes on with after its read. -/
inductive PaymentCopy where
  /-- The order is a success already. -/
  | settled
  /-- The row as read, and the quota to add. -/
  | topUp (copy : TopUp) (quota : Int)
  | order (copy : SubscriptionOrder)
  deriving DecidableEq

/-- The read of a completion function. -/
def readTopUp (terms : RechargeTerms) (tradeNo : String) (bank : Bank) :
    Except PaymentError PaymentCopy :=
  match bank.shop.topUps.get? tradeNo with
  | none => .error .topUpNotFound
  | some topUp => do
    check (∀ provider ∈ terms.provider, topUp.paymentProvider = provider)
      .paymentMethodMismatch
    if terms.idempotent = true ∧ topUp.status = .success then pure .settled
    else do
      check (topUp.status = .pending) .topUpStatusInvalid
      check (terms.checksQuota = true → 0 < terms.quota topUp) .invalidQuota
      pure (.topUp topUp (terms.quota topUp))

/-- The read of `CompleteSubscriptionOrder`. -/
def readOrder (tradeNo expectedPaymentProvider : String) (bank : Bank) :
    Except PaymentError PaymentCopy :=
  match bank.shop.orders.get? tradeNo with
  | none => .error .orderNotFound
  | some order => do
    check
      (¬(expectedPaymentProvider ≠ "" ∧ order.paymentProvider ≠ expectedPaymentProvider))
      .paymentMethodMismatch
    let plan ← (getSubscriptionPlanByIdTx bank.shop.db order.planId).mapError
      fun err => PaymentError.shop (.tx err)
    check (plan.isValuePackage = false) .valuePackagePlan
    if order.status = .success then pure .settled
    else do
      check (order.status = .pending) .orderStatusInvalid
      pure (.order order)

/-- The read of `UpdatePendingTopUpStatus`. -/
def readPendingTopUp (tradeNo expectedPaymentProvider : String) (bank : Bank) :
    Except PaymentError PaymentCopy :=
  match bank.shop.topUps.get? tradeNo with
  | none => .error .topUpNotFound
  | some topUp => do
    check
      (¬(expectedPaymentProvider ≠ "" ∧ topUp.paymentProvider ≠ expectedPaymentProvider))
      .paymentMethodMismatch
    check (topUp.status = .pending) .topUpStatusInvalid
    pure (.topUp topUp 0)

def paymentRead (env : PaymentEnv) (tradeNo : String) (call : PaymentCall) (bank : Bank) :
    Except PaymentError PaymentCopy := do
  check (tradeNo ≠ "") .tradeNoMissing
  match call with
  | .recharge => readTopUp (rechargeTerms env) tradeNo bank
  | .rechargeEpay _ _ => readTopUp (rechargeEpayTerms env) tradeNo bank
  | .rechargeCreem _ => readTopUp rechargeCreemTerms tradeNo bank
  | .rechargeWaffo => readTopUp (rechargeWaffoTerms env) tradeNo bank
  | .rechargeWaffoPancake => readTopUp (rechargeWaffoPancakeTerms env) tradeNo bank
  | .manualCompleteTopUp => readTopUp (manualCompleteTopUpTerms env) tradeNo bank
  | .updatePendingTopUpStatus expected _ => readPendingTopUp tradeNo expected bank
  | .completeSubscriptionOrder _ expected _ => readOrder tradeNo expected bank

/-- The statements that follow a read. -/
inductive PaymentStatement where
  /-- `tx.Save(topUp)`, which writes all columns of the copy. -/
  | saveTopUp (topUp : TopUp)
  /-- The check of the quota that `RechargeEpay` makes after the save. -/
  | checkQuota (quota : Int)
  /-- The read of the user that `RechargeCreem` makes to fill in an email address. -/
  | findUser (userId : Int)
  | addQuota (userId quota : Int)
  | createCommission (topUp : TopUp)
  /-- `CompleteSubscriptionOrder` after its read, with `tx.Save(&order)` at the end. -/
  | settleOrder (times : SaleTimes) (order : SubscriptionOrder) (actualPaymentMethod : String)

/-- The row that a call saves. -/
def savedTopUp (copy : TopUp) : PaymentCall → TopUp
  | .rechargeEpay actualPaymentMethod _ =>
    { copy with
      paymentMethod :=
        if actualPaymentMethod ≠ "" then actualPaymentMethod else copy.paymentMethod
      status := .success }
  | .updatePendingTopUpStatus _ targetStatus => { copy with status := targetStatus }
  | _ => { copy with status := .success }

/-- The checks between the save and the credit. -/
def checksAfterSave (userId quota : Int) : PaymentCall → List PaymentStatement
  | .rechargeEpay _ _ => [.checkQuota quota]
  | .rechargeCreem customerEmail => if customerEmail ≠ "" then [.findUser userId] else []
  | _ => []

def paymentWrites (call : PaymentCall) : PaymentCopy → List PaymentStatement
  | .settled => []
  | .topUp copy quota =>
    match call with
    | .updatePendingTopUpStatus _ _ => [.saveTopUp (savedTopUp copy call)]
    | _ =>
      .saveTopUp (savedTopUp copy call) :: checksAfterSave copy.userId quota call ++
        [.addQuota copy.userId quota, .createCommission (savedTopUp copy call)]
  | .order copy =>
    match call with
    | .completeSubscriptionOrder times _ actualPaymentMethod =>
      [.settleOrder times copy actualPaymentMethod]
    | _ => []

/-- `CompleteSubscriptionOrder` after its read. -/
def settleRegularOrder (env : ShopEnv) (shop : Shop) (times : SaleTimes)
    (order : SubscriptionOrder) (actualPaymentMethod : String) : Except ShopError Shop := do
  let (created, shop) ← createUserSubscriptionFromPlanTx env shop times.nowUnix times.timestamp
    order.userId order.planId
  let order := order.withPayment created.id actualPaymentMethod
  let (_, shop) ← upsertSubscriptionTopUpTx shop order
  let (_, shop) ← maybeUpgradeUserToVIPTx env shop order.userId
  pure (shop.saveOrder { order with status := .success })

def runPaymentStatement (env : PaymentEnv) (statement : PaymentStatement) (bank : Bank) :
    Except PaymentError Bank :=
  match statement with
  | .saveTopUp topUp => .ok (bank.withShop (bank.shop.saveTopUp topUp))
  | .checkQuota quota => if quota ≤ 0 then .error .invalidQuota else .ok bank
  | .findUser userId =>
    if (bank.shop.users.get? userId).isSome then .ok bank else .error .userNotFound
  | .addQuota userId quota => .ok (bank.addQuota userId quota)
  | .createCommission topUp =>
    .ok (bank.withShop (maybeCreateAffiliateCommissionForTopUpTx env.shop bank.shop topUp))
  | .settleOrder times order actualPaymentMethod =>
    match settleRegularOrder env.shop bank.shop times order actualPaymentMethod with
    | .error err => .error (.shop err)
    | .ok shop => .ok (bank.withShop shop)

/-- The functions as transactions on the order with a given trade number. -/
def paymentProgram (env : PaymentEnv) (tradeNo : String) :
    Transaction.Program Bank PaymentCall PaymentCopy PaymentStatement PaymentError where
  locks
    | .rechargeEpay _ locks => locks
    | _ => false
  read := paymentRead env tradeNo
  writes := paymentWrites
  run := runPaymentStatement env

/-! ## What a transaction does -/

/-- The committed transaction has credited the order. -/
def isCredit : PaymentCall × PaymentCopy → Bool
  | (_, .settled) => false
  | (.updatePendingTopUpStatus _ _, _) => false
  | _ => true

/-- What the committed transaction has added to the quota of a user. -/
def creditedQuota (userId : Int) (entry : PaymentCall × PaymentCopy) : Int :=
  match entry.2 with
  | .topUp copy quota => if isCredit entry ∧ copy.userId = userId then quota else 0
  | _ => 0

/-- The committed transaction has created a subscription. -/
def createsSubscription : PaymentCall × PaymentCopy → Bool
  | (_, .order _) => true
  | _ => false

variable {env : PaymentEnv} {tradeNo : String} {bank bank' : Bank} {call : PaymentCall}

lemma runAll_checksAfterSave {userId : Int}
    (h : (paymentProgram env tradeNo).runAll (checksAfterSave userId quota call) bank = .ok bank') :
    bank' = bank := by
  unfold checksAfterSave at h
  split at h
  · obtain ⟨middle, hfirst, hlast⟩ := bind_eq_ok.mp h
    cases hlast
    simp only [paymentProgram, runPaymentStatement] at hfirst
    split_ifs at hfirst
    cases hfirst
    rfl
  · split_ifs at h
    · obtain ⟨middle, hfirst, hlast⟩ := bind_eq_ok.mp h
      cases hlast
      simp only [paymentProgram, runPaymentStatement] at hfirst
      split_ifs at hfirst
      cases hfirst
      rfl
    · cases h
      rfl
  · cases h
    rfl

/-- What a transaction on a top-up leaves. -/
structure TopUpSaved (bank : Bank) (call : PaymentCall) (copy : TopUp) (quota : Int)
    (bank' : Bank) : Prop where
  topUps : bank'.shop.topUps = bank.shop.topUps.put (savedTopUp copy call)
  orders : bank'.shop.orders = bank.shop.orders
  db : bank'.shop.db = bank.shop.db
  quota : ∀ userId, bank'.quotaOf userId =
    bank.quotaOf userId + creditedQuota userId (call, .topUp copy quota)

lemma Bank.addQuota_apply (bank : Bank) (userId quota other : Int) :
    (bank.addQuota userId quota).quotaOf other =
      bank.quotaOf other + if userId = other then quota else 0 := by
  rw [Bank.addQuota_quotaOf, Function.update_apply]
  split_ifs with hother hsame hsame
  · rw [hother]
  · exact absurd hother.symm hsame
  · exact absurd hsame.symm hother
  · rw [add_zero]

lemma credit_saved {copy : TopUp} (hcredit : isCredit (call, .topUp copy quota) = true)
    (h : (paymentProgram env tradeNo).runAll
      (.saveTopUp (savedTopUp copy call) :: checksAfterSave copy.userId quota call ++
        [.addQuota copy.userId quota, .createCommission (savedTopUp copy call)]) bank =
      .ok bank') : TopUpSaved bank call copy quota bank' := by
  rw [Transaction.Program.runAll_append] at h
  obtain ⟨checked, hfront, hrest⟩ := bind_eq_ok.mp h
  have hsaved : checked = bank.withShop (bank.shop.saveTopUp (savedTopUp copy call)) :=
    runAll_checksAfterSave hfront
  obtain ⟨commissions, hcommission, -⟩ := maybeCreateCommission_spec env.shop
    ((bank.withShop (bank.shop.saveTopUp (savedTopUp copy call))).addQuota copy.userId quota).shop
    (savedTopUp copy call)
  have hbank' : bank' = ((bank.withShop (bank.shop.saveTopUp (savedTopUp copy call))).addQuota
      copy.userId quota).withShop (maybeCreateAffiliateCommissionForTopUpTx env.shop
        ((bank.withShop (bank.shop.saveTopUp (savedTopUp copy call))).addQuota copy.userId
          quota).shop (savedTopUp copy call)) := by
    subst hsaved
    exact (Except.ok.inj hrest).symm
  rw [hcommission] at hbank'
  subst hbank'
  refine ⟨rfl, rfl, rfl, fun userId => ?_⟩
  rw [Bank.withShop_quotaOf, Bank.addQuota_apply, creditedQuota, Bank.withShop_quotaOf]
  simp only [hcredit, true_and]

lemma topUpWrites_saved {copy : TopUp}
    (h : (paymentProgram env tradeNo).runAll (paymentWrites call (.topUp copy quota)) bank =
      .ok bank') : TopUpSaved bank call copy quota bank' := by
  cases call with
  | updatePendingTopUpStatus expected target =>
    cases h
    refine ⟨rfl, rfl, rfl, fun userId => ?_⟩
    simp [creditedQuota, isCredit]
  | _ => exact credit_saved rfl h

/-- What the completion of a subscription order leaves. -/
structure OrderSettled (bank : Bank) (copy : SubscriptionOrder) (bank' : Bank) : Prop where
  order : (bank'.shop.orders.get? copy.tradeNo).map (·.status) = some .success
  topUp : (bank'.shop.topUps.get? copy.tradeNo).map (·.status) = some .success
  subscriptions : bank'.shop.db.subscriptions.rows.length =
    bank.shop.db.subscriptions.rows.length + 1
  quota : bank'.quotaOf = bank.quotaOf

lemma settleRegularOrder_settled {shopEnv : ShopEnv} {shop' : Shop} {times : SaleTimes}
    {copy : SubscriptionOrder} {method : String}
    (h : settleRegularOrder shopEnv bank.shop times copy method = .ok shop') :
    OrderSettled bank copy (bank.withShop shop') := by
  obtain ⟨⟨created, sold⟩, hcreate, h⟩ := bind_eq_ok.mp h
  obtain ⟨⟨topUp, recorded⟩, hupsert, h⟩ := bind_eq_ok.mp h
  obtain ⟨⟨upgraded, vip⟩, hvip, h⟩ := bind_eq_ok.mp h
  obtain ⟨plan, -, -, -, hsub, hsold⟩ := createSubscriptionTx_ok hcreate
  obtain ⟨-, hrecorded⟩ := upsertTopUp_ok hupsert
  obtain ⟨⟨users, hupgraded⟩, -⟩ := maybeUpgrade_ok hvip
  obtain ⟨users', heq⟩ := bank.shop.upgradeUser_eq copy.userId plan
  have hnew : bank.shop.db.subscriptions.get? created.id = none := by
    rw [hsub.id]
    exact bank.shop.get?_nextSubscriptionId
  have htopUps : vip.topUps = sold.topUps.put
      (subscriptionTopUp sold (copy.withPayment created.id method)) := by
    rw [hupgraded, hrecorded, Shop.saveTopUp_topUps]
  have hsubscriptions : vip.db.subscriptions = bank.shop.db.subscriptions.put created := by
    rw [hupgraded, hrecorded, Shop.saveTopUp_db, hsold, heq, Shop.createSubscription_db]
    rfl
  rw [← pure_eq_ok.mp h]
  refine ⟨?_, ?_, ?_, rfl⟩
  · -- The order is saved under its own trade number.
    rw [Bank.withShop_shop, Shop.saveOrder_orders]
    exact congrArg _ (get?_put_self vip.orders
      { copy.withPayment created.id method with status := .success })
  · rw [Bank.withShop_shop, Shop.saveOrder_topUps, htopUps]
    exact congrArg _ (get?_put_self sold.topUps
      (subscriptionTopUp sold (copy.withPayment created.id method)))
  · rw [Bank.withShop_shop, Shop.saveOrder_db, hsubscriptions, put_rows_of_none hnew,
      List.length_append, List.length_singleton]

/-! ## The race for an order -/

/-- A top-up, or an order of a regular subscription. -/
inductive OrderKind where
  | topUp
  | subscription

/-- The stored status of the order. -/
def Bank.statusOf (bank : Bank) (tradeNo : String) : OrderKind → Option TopUpStatus
  | .topUp => (bank.shop.topUps.get? tradeNo).map (·.status)
  | .subscription => (bank.shop.orders.get? tradeNo).map (·.status)

/-- There is no second order to credit under the trade number: a subscription order has a top-up
row only once it has been completed. -/
def OneOrder (tradeNo : String) (bank : Bank) : OrderKind → Prop
  | .topUp => bank.shop.orders.get? tradeNo = none
  | .subscription => ∀ topUp ∈ bank.shop.topUps.get? tradeNo, topUp.status = .success

/-- The order is pending, and is the only one with its trade number. -/
def PendingOrder (tradeNo : String) (bank : Bank) : OrderKind → Prop
  | .topUp => bank.statusOf tradeNo .topUp = some .pending ∧ bank.shop.orders.get? tradeNo = none
  | .subscription =>
    bank.statusOf tradeNo .subscription = some .pending ∧ bank.shop.topUps.get? tradeNo = none

/-- The order has been credited once at most, and is a success if it has been. The balances and the
subscriptions account for the transactions that have committed. -/
structure CreditedOnce (kind : OrderKind) (tradeNo : String) (start bank : Bank)
    (history : List (PaymentCall × PaymentCopy)) : Prop where
  once : history.countP isCredit ≤ 1
  success : 0 < history.countP isCredit → bank.statusOf tradeNo kind = some .success
  one : OneOrder tradeNo bank kind
  quota : ∀ userId, bank.quotaOf userId =
    start.quotaOf userId + (history.map (creditedQuota userId)).sum
  subscriptions : bank.shop.db.subscriptions.rows.length =
    start.shop.db.subscriptions.rows.length + history.countP createsSubscription

/-- What was read is the order. -/
def ReadOrder (kind : OrderKind) (tradeNo : String) (call : PaymentCall) : PaymentCopy → Prop
  | .settled => True
  | .topUp copy _ => kind = .topUp ∧ copy.tradeNo = tradeNo
  | .order copy => kind = .subscription ∧ copy.tradeNo = tradeNo ∧
      ∃ times expected method, call = .completeSubscriptionOrder times expected method

/-- A transaction whose read did not lock the order does not save it over a success. -/
def SavesPending (kind : OrderKind) (env : PaymentEnv) (tradeNo : String) (bank : Bank)
    (call : PaymentCall) (copy : PaymentCopy) : Prop :=
  (paymentProgram env tradeNo).locks call = false → copy ≠ .settled →
    bank.statusOf tradeNo kind ≠ some .success

instance (kind : OrderKind) (env : PaymentEnv) (tradeNo : String) (bank : Bank)
    (call : PaymentCall) (copy : PaymentCopy) :
    Decidable (SavesPending kind env tradeNo bank call copy) :=
  inferInstanceAs (Decidable (_ → _ → _))

lemma readTopUp_pending {terms : RechargeTerms} (h : readTopUp terms tradeNo bank = .ok copy)
    (hsettled : copy ≠ .settled) :
    ∃ topUp quota, copy = .topUp topUp quota ∧ bank.shop.topUps.get? tradeNo = some topUp ∧
      topUp.status = .pending := by
  unfold readTopUp at h
  split at h
  · cases h
  next topUp hget =>
    obtain ⟨_, h⟩ := of_bind h
    split_ifs at h
    · exact absurd (pure_eq_ok.mp h).symm hsettled
    · obtain ⟨hpending, h⟩ := of_check h
      obtain ⟨_, h⟩ := of_bind h
      exact ⟨topUp, _, (pure_eq_ok.mp h).symm, hget, hpending⟩

lemma readPendingTopUp_pending (h : readPendingTopUp tradeNo expected bank = .ok copy) :
    ∃ topUp quota, copy = .topUp topUp quota ∧ bank.shop.topUps.get? tradeNo = some topUp ∧
      topUp.status = .pending := by
  unfold readPendingTopUp at h
  split at h
  · cases h
  next topUp hget =>
    obtain ⟨_, h⟩ := of_bind h
    obtain ⟨hpending, h⟩ := of_check h
    exact ⟨topUp, 0, (pure_eq_ok.mp h).symm, hget, hpending⟩

lemma readOrder_pending (h : readOrder tradeNo expected bank = .ok copy)
    (hsettled : copy ≠ .settled) :
    ∃ order, copy = .order order ∧ bank.shop.orders.get? tradeNo = some order ∧
      order.status = .pending := by
  unfold readOrder at h
  split at h
  · cases h
  next order hget =>
    obtain ⟨_, h⟩ := of_bind h
    obtain ⟨plan, -, h⟩ := bind_eq_ok.mp h
    obtain ⟨_, h⟩ := of_bind h
    split_ifs at h
    · exact absurd (pure_eq_ok.mp h).symm hsettled
    · obtain ⟨hpending, h⟩ := of_check h
      exact ⟨order, (pure_eq_ok.mp h).symm, hget, hpending⟩

lemma paymentRead_pending (h : paymentRead env tradeNo call bank = .ok copy)
    (hsettled : copy ≠ .settled) :
    (∃ topUp quota, copy = .topUp topUp quota ∧ bank.shop.topUps.get? tradeNo = some topUp ∧
        topUp.status = .pending) ∨
      (∃ order times expected method, copy = .order order ∧
        call = .completeSubscriptionOrder times expected method ∧
        bank.shop.orders.get? tradeNo = some order ∧ order.status = .pending) := by
  obtain ⟨_, h⟩ := of_bind h
  cases call with
  | updatePendingTopUpStatus => exact .inl (readPendingTopUp_pending h)
  | completeSubscriptionOrder times expected method =>
    obtain ⟨order, hcopy, hget, hstatus⟩ := readOrder_pending h hsettled
    exact .inr ⟨order, times, expected, method, hcopy, rfl, hget, hstatus⟩
  | _ => exact .inl (readTopUp_pending h hsettled)

lemma paymentRead_one {kind : OrderKind} (hone : OneOrder tradeNo bank kind)
    (h : paymentRead env tradeNo call bank = .ok copy) (hsettled : copy ≠ .settled) :
    ReadOrder kind tradeNo call copy ∧ bank.statusOf tradeNo kind = some .pending := by
  rcases paymentRead_pending h hsettled with
    ⟨topUp, quota, rfl, hget, hstatus⟩ | ⟨order, times, expected, method, rfl, hcall, hget, hstatus⟩
  · cases kind with
    | topUp => exact ⟨⟨rfl, key_of_get? hget⟩, by simp [Bank.statusOf, hget, hstatus]⟩
    | subscription =>
      have hsuccess := hone topUp hget
      rw [hstatus] at hsuccess
      cases hsuccess
  · cases kind with
    | topUp =>
      rw [show bank.shop.orders.get? tradeNo = none from hone] at hget
      cases hget
    | subscription =>
      exact ⟨⟨rfl, key_of_get? hget, times, expected, method, hcall⟩,
        by simp [Bank.statusOf, hget, hstatus]⟩

namespace CreditedOnce

variable {kind : OrderKind} {start : Bank} {history : List (PaymentCall × PaymentCopy)}

lemma not_credited (h : CreditedOnce kind tradeNo start bank history)
    (hstatus : bank.statusOf tradeNo kind ≠ some .success) : history.countP isCredit = 0 := by
  by_contra hne
  exact hstatus (h.success (Nat.pos_of_ne_zero hne))

lemma settled (h : CreditedOnce kind tradeNo start bank history) (call : PaymentCall) :
    CreditedOnce kind tradeNo start bank (history ++ [(call, .settled)]) where
  once := by simpa [List.countP_append, isCredit] using h.once
  success := by simpa [List.countP_append, isCredit] using h.success
  one := h.one
  quota := by simpa [creditedQuota] using h.quota
  subscriptions := by simpa [List.countP_append, createsSubscription] using h.subscriptions

lemma topUp (h : CreditedOnce .topUp tradeNo start bank history)
    (hstatus : bank.statusOf tradeNo .topUp ≠ some .success) {copy : TopUp}
    (hcopy : copy.tradeNo = tradeNo) (hsaved : TopUpSaved bank call copy quota bank') :
    CreditedOnce .topUp tradeNo start bank' (history ++ [(call, .topUp copy quota)]) where
  once := by
    rw [List.countP_append, h.not_credited hstatus, Nat.zero_add]
    exact List.countP_le_length
  success := by
    rw [List.countP_append, h.not_credited hstatus, Nat.zero_add, List.countP_singleton]
    split_ifs with hcredit
    · intro _
      have hkey : (savedTopUp copy call).tradeNo = tradeNo := by
        rw [← hcopy]
        unfold savedTopUp
        split <;> rfl
      have hsuccess : (savedTopUp copy call).status = .success := by
        unfold savedTopUp
        split
        · rfl
        · cases hcredit
        · rfl
      rw [Bank.statusOf, hsaved.topUps, ← hkey, get?_put_self, Option.map_some, hsuccess]
    · exact fun hpos => absurd hpos (Nat.lt_irrefl 0)
  one := by
    rw [OneOrder, hsaved.orders]
    exact h.one
  quota := by
    intro userId
    rw [hsaved.quota, h.quota, List.map_append, List.sum_append, List.map_singleton,
      List.sum_singleton, add_assoc]
  subscriptions := by
    rw [hsaved.db, h.subscriptions, List.countP_append]
    rfl

lemma order (h : CreditedOnce .subscription tradeNo start bank history)
    (hstatus : bank.statusOf tradeNo .subscription ≠ some .success) {copy : SubscriptionOrder}
    (hcopy : copy.tradeNo = tradeNo) (hsettled : OrderSettled bank copy bank') :
    CreditedOnce .subscription tradeNo start bank' (history ++ [(call, .order copy)]) where
  once := by
    rw [List.countP_append, h.not_credited hstatus, Nat.zero_add]
    exact List.countP_le_length
  success := fun _ => hcopy ▸ hsettled.order
  one := by
    intro topUp htopUp
    have hsuccess := hsettled.topUp
    rw [hcopy, Option.mem_def.mp htopUp, Option.map_some, Option.some.injEq] at hsuccess
    exact hsuccess
  quota := by
    intro userId
    rw [hsettled.quota, h.quota, List.map_append, List.sum_append]
    simp [creditedQuota]
  subscriptions := by
    rw [hsettled.subscriptions, h.subscriptions, List.countP_append, List.countP_singleton]
    simp only [createsSubscription, if_true]
    exact Nat.add_assoc _ _ _

end CreditedOnce

lemma payment_rule (env : PaymentEnv) (kind : OrderKind) (tradeNo : String) (start : Bank) :
    Transaction.Rule (paymentProgram env tradeNo) (CreditedOnce kind tradeNo start)
      (fun _ => ReadOrder kind tradeNo) (SavesPending kind env tradeNo) where
  read := by
    intro bank history call copy h hread
    by_cases hsettled : copy = .settled
    · rw [hsettled]
      trivial
    · exact (paymentRead_one h.one hread hsettled).1
  commit := by
    intro bank history call copy bank' h hknown hfresh hpending hrun
    -- Either the read locked the order and it is still pending, or this is what is allowed.
    have hstatus (hsettled : copy ≠ .settled) : bank.statusOf tradeNo kind ≠ some .success := by
      cases hlocks : (paymentProgram env tradeNo).locks call with
      | false => exact hpending hlocks hsettled
      | true =>
        rw [(paymentRead_one h.one (hfresh hlocks) hsettled).2]
        decide
    cases copy with
    | settled =>
      cases hrun
      exact h.settled call
    | topUp copy quota =>
      obtain ⟨rfl, hcopy⟩ := hknown
      exact h.topUp (hstatus nofun) hcopy (topUpWrites_saved hrun)
    | order copy =>
      obtain ⟨rfl, hcopy, times, expected, method, rfl⟩ := hknown
      obtain ⟨middle, hfirst, hlast⟩ := bind_eq_ok.mp hrun
      cases hlast
      simp only [paymentProgram, runPaymentStatement] at hfirst
      split at hfirst
      · cases hfirst
      next shop' hshop =>
        cases hfirst
        exact h.order (hstatus nofun) hcopy (settleRegularOrder_settled hshop)
  stable := fun _ _ _ _ _ _ _ _ _ _ hknown => hknown

abbrev PaymentState := Transaction.State Bank PaymentCall PaymentCopy PaymentStatement

/-- The state after calls on an order in some interleaving. -/
def paymentRun (env : PaymentEnv) (tradeNo : String) (bank : Bank)
    (moves : List (Transaction.Move PaymentCall)) : PaymentState :=
  exec (paymentProgram env tradeNo).system.step (Transaction.start bank) moves

/-- A pending order is credited at most once, and is a success after its credit, in every run in
which no transaction without a lock saves the order over a success. The balances account for what
the committed transactions have credited. -/
theorem payment_credited_once (env : PaymentEnv) (kind : OrderKind) (tradeNo : String) (bank : Bank)
    (hpending : PendingOrder tradeNo bank kind) (moves : List (Transaction.Move PaymentCall))
    (hallowed : Along (paymentProgram env tradeNo).system.step
      (Transaction.CommitAllowed (SavesPending kind env tradeNo)) (Transaction.start bank) moves) :
    CreditedOnce kind tradeNo bank (paymentRun env tradeNo bank moves).shared.store
      (paymentRun env tradeNo bank moves).shared.history := by
  have hone : OneOrder tradeNo bank kind := by
    cases kind with
    | topUp => exact hpending.2
    | subscription =>
      intro topUp htopUp
      rw [Option.mem_def, hpending.2] at htopUp
      cases htopUp
  have hstart : CreditedOnce kind tradeNo bank bank [] :=
    ⟨Nat.zero_le 1, fun hpos => absurd hpos (Nat.lt_irrefl 0), hone,
      fun _ => (add_zero _).symm, rfl⟩
  exact ((payment_rule env kind tradeNo bank).exec (Transaction.holds_start hstart) hallowed).inv

/-- Surroundings with a quota of `500` for each unit. -/
def samplePaymentEnv : PaymentEnv where
  shop := sampleShopEnv
  amountQuota amount := amount * 500
  moneyQuota _ := 0
  floatQuota _ := 0

/-- User `1` has a pending Waffo order of three units. -/
def orderedBank : Bank where
  shop :=
    { sampleShop with
      topUps := Table.empty.put ⟨"W1", 1, 1, 3, .finite 20 0, "waffo", "waffo", .pending⟩
      lastTopUpId := 1 }
  quotaOf _ := 0
  redemptions := Table.empty

/-- The lock, the three statements and the commit of a call. -/
def restOfCall (ref : Nat) : List (Transaction.Move PaymentCall) :=
  List.replicate 5 (.act ref false)

/-- The payment is reported and credited. A second report finds the order settled, and an attempt to
close the order is refused. -/
def reportedInTurn : List (Transaction.Move PaymentCall) :=
  [.spawn .rechargeWaffo, .act 0 false] ++ restOfCall 0 ++
    [.spawn .rechargeWaffo, .act 1 false, .act 1 false, .act 1 false,
      .spawn (.updatePendingTopUpStatus "waffo" .failed), .act 2 false]

theorem reportedInTurn_credited :
    PendingOrder "W1" orderedBank .topUp ∧
      Along (paymentProgram samplePaymentEnv "W1").system.step
        (Transaction.CommitAllowed (SavesPending .topUp samplePaymentEnv "W1"))
        (Transaction.start orderedBank) reportedInTurn ∧
      CreditedOnce .topUp "W1" orderedBank
        (paymentRun samplePaymentEnv "W1" orderedBank reportedInTurn).shared.store
        (paymentRun samplePaymentEnv "W1" orderedBank reportedInTurn).shared.history := by
  have hpending : PendingOrder "W1" orderedBank .topUp := by
    constructor <;> decide
  have hallowed : Along (paymentProgram samplePaymentEnv "W1").system.step
      (Transaction.CommitAllowed (SavesPending .topUp samplePaymentEnv "W1"))
      (Transaction.start orderedBank) reportedInTurn := by
    decide +kernel
  exact ⟨hpending, hallowed,
    payment_credited_once samplePaymentEnv .topUp "W1" orderedBank hpending reportedInTurn hallowed⟩

/-- Two processes handle a report of the payment each. Both read the order before one saves it. -/
def reportedAtOnce : List (Transaction.Move PaymentCall) :=
  [.spawn .rechargeWaffo, .spawn .rechargeWaffo, .act 0 false, .act 1 false] ++ restOfCall 0 ++
    restOfCall 1

/-- Both calls commit, and the user gets the quota of the order twice. -/
theorem two_reports_credited_twice :
    PendingOrder "W1" orderedBank .topUp ∧
      (paymentRun samplePaymentEnv "W1" orderedBank reportedAtOnce).workers.map
        Transaction.Task.done = [1, 1] ∧
      (paymentRun samplePaymentEnv "W1" orderedBank reportedAtOnce).shared.history.countP
        isCredit = 2 ∧
      (paymentRun samplePaymentEnv "W1" orderedBank reportedAtOnce).shared.store.quotaOf 1 =
        3000 := by
  refine ⟨by constructor <;> decide, ?_, ?_, ?_⟩ <;> decide +kernel

end Yunbay
