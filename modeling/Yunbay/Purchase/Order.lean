import Yunbay.Purchase.Package

/-!
# Orders of value packages

`CompleteValuePackageOrder` settles a paid order in one transaction: it sells the package, records
the payment as a top-up, adds the money to the valid top-ups of the user, pays the commission of
the inviter and may make the user a VIP. `ExpireSubscriptionOrder` closes an order that has not been
paid. `completeValuePackageOrder_cases` and `PaymentRecorded` say what this does to the tables.
-/

namespace Yunbay

open Except Table

variable {env : ShopEnv} {shop shop' : Shop} {topUp : TopUp} {userId cents : Int}
  {upgraded confirmedCover : Bool} {commission : AffiliateCommission} {order : SubscriptionOrder}
  {times : SaleTimes} {actualPaymentMethod tradeNo expectedPaymentProvider : String}
  {completed : UserSubscription}

/-! ## Parts of the settlement -/

/-- The top-up row of an order that is settled. -/
def subscriptionTopUp (shop : Shop) (order : SubscriptionOrder) : TopUp where
  tradeNo := order.tradeNo
  id := (shop.topUps.get? order.tradeNo).elim shop.nextTopUpId (·.id)
  userId := order.userId
  amount := 0
  money := order.money
  paymentMethod := order.paymentMethod
  paymentProvider := order.paymentProvider
  status := .success

/-- What `upsertSubscriptionTopUpTx` checks of a row that is already there. -/
def checkSubscriptionTopUp (topUp : TopUp) (order : SubscriptionOrder) : Except ShopError Unit := do
  check (topUp.userId = order.userId) .topUpUserMismatch
  check (¬0 < topUp.amount) .topUpIsBalanceRecharge
  check (topUp.paymentMethod = "" ∨ topUp.paymentMethod = order.paymentMethod)
    .paymentMethodMismatch
  check (topUp.paymentProvider = "" ∨ topUp.paymentProvider = order.paymentProvider)
    .paymentMethodMismatch

/-- `upsertSubscriptionTopUpTx`. A row that is there and passes the checks is left with the columns
of the order. -/
def upsertSubscriptionTopUpTx (shop : Shop) (order : SubscriptionOrder) :
    Except ShopError (TopUp × Shop) := do
  match shop.topUps.get? order.tradeNo with
  | none => pure ()
  | some topUp => checkSubscriptionTopUp topUp order
  let topUp := subscriptionTopUp shop order
  pure (topUp, shop.saveTopUp topUp)

def addUserValidTopupCentsTx (shop : Shop) (userId cents : Int) : Except ShopError Shop :=
  if userId ≤ 0 ∨ cents ≤ 0 then pure shop
  else
    match shop.users.get? userId with
    | none => .error .recordNotFound
    | some user =>
      pure (shop.saveUser
        { user with
          validTopupCents := user.validTopupCents + cents
          validTopupHistoryCents := user.validTopupHistoryCents + cents })

/-- The commission that `MaybeCreateAffiliateCommissionForTopUpTx` creates, if any. -/
def commissionFor (env : ShopEnv) (shop : Shop) (topUp : TopUp) : Option AffiliateCommission :=
  if topUp.id ≤ 0 ∨ topUp.userId ≤ 0 ∨ topUp.status ≠ .success ∨ topUp.money.leZero then none
  else if (shop.commissions.get? topUp.id).isSome then none
  else
    match shop.users.get? topUp.userId with
    | none => none
    | some invitee =>
      if invitee.inviterId ≤ 0 ∨ invitee.inviterId = invitee.id then none
      else
        match shop.users.get? invitee.inviterId with
        | none => none
        | some inviter =>
          let commissionMoney := env.commissionMoney topUp.money
          if commissionMoney.isFinitePositive then
            some ⟨topUp.id, topUp.tradeNo, inviter.id, invitee.id, commissionMoney⟩
          else none

def maybeCreateAffiliateCommissionForTopUpTx (env : ShopEnv) (shop : Shop) (topUp : TopUp) : Shop :=
  match commissionFor env shop topUp with
  | none => shop
  | some commission => shop.saveCommission commission

def isVIPUpgradeableUser (user : User) : Bool :=
  user.isCommonUser ∧ (user.group = "" ∨ user.group = "default" ∨ user.group = "体验用户")

def maybeUpgradeUserToVIPTx (env : ShopEnv) (shop : Shop) (userId : Int) :
    Except ShopError (Bool × Shop) :=
  if userId ≤ 0 then pure (false, shop)
  else
    match shop.users.get? userId with
    | none => .error .recordNotFound
    | some user =>
      if user.group = "vip" ∨ isVIPUpgradeableUser user = false then pure (false, shop)
      else
        let topUps := shop.topUps.rows.filter fun topUp =>
          topUp.userId = userId ∧ topUp.status = .success
        if env.vipQualified topUps then pure (true, shop.saveUser { user with group := "vip" })
        else pure (false, shop)

/-! ## The two calls -/

/-- The order that is settled. -/
def SubscriptionOrder.withPayment (order : SubscriptionOrder) (userSubscriptionId : Int)
    (actualPaymentMethod : String) : SubscriptionOrder :=
  { order with
    userSubscriptionId
    paymentMethod := if actualPaymentMethod ≠ "" then actualPaymentMethod else order.paymentMethod }

/-- The part of `CompleteValuePackageOrder` after the sale. -/
def recordPayment (env : ShopEnv) (shop : Shop) (order : SubscriptionOrder) :
    Except ShopError Shop := do
  let (topUp, shop) ← upsertSubscriptionTopUpTx shop order
  let shop ← addUserValidTopupCentsTx shop order.userId (moneyToValidTopupCents order.money)
  let shop := maybeCreateAffiliateCommissionForTopUpTx env shop topUp
  let (_, shop) ← maybeUpgradeUserToVIPTx env shop order.userId
  pure (shop.saveOrder { order with status := .success })

/-- The part of `CompleteValuePackageOrder` for a pending order. -/
def settleOrder (env : ShopEnv) (shop : Shop) (times : SaleTimes) (order : SubscriptionOrder)
    (actualPaymentMethod : String) (confirmedCover : Bool) :
    Except ShopError (UserSubscription × Shop) := do
  check (shop.users.get? order.userId).isSome .recordNotFound
  let plan ← (getSubscriptionPlanByIdTx shop.db order.planId).mapError ShopError.tx
  check plan.isValuePackage .orderPlanNotValuePackage
  let intent ←
    checkValuePackagePurchaseIntentTx shop order.userId plan confirmedCover times.intentNow
  check (¬intent.requiresConfirmation) .confirmationRequired
  let (completed, shop) ←
    sellValuePackage env shop times order.userId plan intent.action order.giftResetCount
  let shop ← recordPayment env shop (order.withPayment completed.id actualPaymentMethod)
  pure (completed, shop)

def completeValuePackageOrder (env : ShopEnv) (shop : Shop) (times : SaleTimes) (tradeNo : String)
    (expectedPaymentProvider actualPaymentMethod : String) (confirmedCover : Bool) :
    Except ShopError (UserSubscription × Shop) := do
  check (¬isBlank tradeNo) .tradeNoEmpty
  match shop.orders.get? tradeNo with
  | none => .error .orderNotFound
  | some order => do
    check
      (¬(expectedPaymentProvider ≠ "" ∧ order.paymentProvider ≠ expectedPaymentProvider))
      .paymentMethodMismatch
    if order.status = .success then do
      check (0 < order.userSubscriptionId) .completedOrderWithoutSubscription
      match (shop.db.subscriptions.get? order.userSubscriptionId).filter fun sub =>
        sub.userId = order.userId with
      | none => .error .completedSubscriptionNotFound
      | some sub => pure (sub, shop)
    else do
      check (order.status = .pending) .orderStatusInvalid
      settleOrder env shop times order actualPaymentMethod confirmedCover

def expireSubscriptionOrder (shop : Shop) (tradeNo expectedPaymentProvider : String) :
    Except ShopError (Unit × Shop) := do
  check (tradeNo ≠ "") .tradeNoEmpty
  match shop.orders.get? tradeNo with
  | none => .error .orderNotFound
  | some order => do
    check
      (¬(expectedPaymentProvider ≠ "" ∧ order.paymentProvider ≠ expectedPaymentProvider))
      .paymentMethodMismatch
    if order.status ≠ .pending then pure ((), shop)
    else pure ((), shop.saveOrder { order with status := .expired })

/-! ## What settling does -/

/-- The valid top-up cents of a user. -/
def Shop.centsOf (shop : Shop) (userId : Int) : Int :=
  (shop.users.get? userId).elim 0 (·.validTopupCents)

lemma moneyToCents_nonneg (money : Money) : 0 ≤ moneyToValidTopupCents money := by
  unfold moneyToValidTopupCents
  cases money with
  | finite unscaled scale =>
    dsimp only
    split_ifs with hle
    · exact le_refl 0
    · exact le_refl 0
    · have hscale : (0 : Int) < 10 ^ scale := by positivity
      exact Int.ediv_nonneg (by omega) (by omega)
  | _ => exact le_refl 0

/-- The users are the same, apart from their groups and their top-ups. -/
def SameInviters (shop shop' : Shop) : Prop :=
  ∀ userId, (shop'.users.get? userId).map (fun user => (user.id, user.inviterId)) =
    (shop.users.get? userId).map fun user => (user.id, user.inviterId)

lemma commissionFor_isSome_congr {topUp' : TopUp} (husers : SameInviters shop shop')
    (hcommissions : shop'.commissions = shop.commissions) (hid : topUp'.id = topUp.id)
    (huser : topUp'.userId = topUp.userId) (hstatus : topUp'.status = topUp.status)
    (hmoney : topUp'.money = topUp.money) :
    (commissionFor env shop' topUp').isSome = (commissionFor env shop topUp).isSome := by
  unfold commissionFor
  rw [hid, huser, hstatus, hmoney, hcommissions]
  split_ifs with hinvalid hexisting
  · rfl
  · rfl
  · have hinvitee := husers topUp.userId
    cases hget : shop.users.get? topUp.userId with
    | none =>
      rw [hget, Option.map_none, Option.map_eq_none_iff] at hinvitee
      rw [hinvitee]
    | some invitee =>
      rw [hget] at hinvitee
      obtain ⟨invitee', hinvitee', hsame⟩ := Option.map_eq_some_iff.mp hinvitee
      obtain ⟨hid', hinviterId⟩ := Prod.mk.inj hsame
      rw [hinvitee']
      dsimp only
      rw [hid', hinviterId]
      by_cases hself : invitee.inviterId ≤ 0 ∨ invitee.inviterId = invitee.id
      · rw [if_pos hself, if_pos hself]
      · rw [if_neg hself, if_neg hself]
        have hinviter := husers invitee.inviterId
        cases hget' : shop.users.get? invitee.inviterId with
        | none =>
          rw [hget', Option.map_none, Option.map_eq_none_iff] at hinviter
          rw [hinviter]
        | some inviter =>
          rw [hget'] at hinviter
          obtain ⟨inviter', hinviter', -⟩ := Option.map_eq_some_iff.mp hinviter
          rw [hinviter']
          dsimp only
          split_ifs
          · rfl
          · rfl

/-- What `AddUserValidTopupCentsTx` makes of its user. -/
def User.credited (user : User) (cents : Int) : User :=
  if user.id ≤ 0 ∨ cents ≤ 0 then user
  else
    { user with
      validTopupCents := user.validTopupCents + cents
      validTopupHistoryCents := user.validTopupHistoryCents + cents }

/-- What `MaybeUpgradeUserToVIPTx` makes of its user, whose successful top-ups are given. -/
def User.promoted (user : User) (env : ShopEnv) (topUps : List TopUp) : User :=
  if user.id ≤ 0 ∨ user.group = "vip" ∨ isVIPUpgradeableUser user = false ∨
      env.vipQualified topUps = false then user
  else { user with group := "vip" }

/-- The successful top-ups of a user. -/
def Shop.successfulTopUps (shop : Shop) (userId : Int) : List TopUp :=
  shop.topUps.rows.filter fun topUp => topUp.userId = userId ∧ topUp.status = .success

lemma User.credited_eq (user : User) (cents : Int) :
    (user.credited cents).id = user.id ∧ (user.credited cents).inviterId = user.inviterId := by
  unfold User.credited
  split_ifs <;> exact ⟨rfl, rfl⟩

@[simp]
lemma User.promoted_validTopupCents (user : User) (env : ShopEnv) (topUps : List TopUp) :
    (user.promoted env topUps).validTopupCents = user.validTopupCents := by
  unfold User.promoted
  split_ifs <;> rfl

@[simp]
lemma User.promoted_historyCents (user : User) (env : ShopEnv) (topUps : List TopUp) :
    (user.promoted env topUps).validTopupHistoryCents = user.validTopupHistoryCents := by
  unfold User.promoted
  split_ifs <;> rfl

lemma addValidCents_users (h : addUserValidTopupCentsTx shop userId cents = .ok shop') :
    ∃ users, shop' = { shop with users := users } ∧
      ∀ other, users.get? other = (shop.users.get? other).map fun user =>
        if other = userId then user.credited cents else user := by
  unfold addUserValidTopupCentsTx at h
  split_ifs at h with hnothing
  · refine ⟨shop.users, (pure_eq_ok.mp h).symm, fun other => ?_⟩
    refine (map_get?_of_fixed (fun user hget => ?_) other).symm
    rw [User.credited, key_of_get? hget, if_pos hnothing]
  · split at h
    · cases h
    next user hget =>
      have hid : user.id = userId := key_of_get? hget
      have hcredited : user.credited cents =
          { user with
            validTopupCents := user.validTopupCents + cents
            validTopupHistoryCents := user.validTopupHistoryCents + cents } := by
        rw [User.credited, hid, if_neg hnothing]
      rw [← hcredited] at h
      refine ⟨_, (pure_eq_ok.mp h).symm,
        get?_put_update (User.credited · cents) hget ?_⟩
      exact (user.credited_eq cents).1.trans hid

/-- The cents are added to the user, and nothing else of the users changes that a commission
reads. -/
lemma addValidCents_ok (hpos : 0 < userId) (hcents : 0 ≤ cents)
    (h : addUserValidTopupCentsTx shop userId cents = .ok shop') :
    (∃ users, shop' = { shop with users := users }) ∧ SameInviters shop shop' ∧
      ∀ other, shop'.centsOf other = shop.centsOf other + if other = userId then cents else 0 := by
  have hmissing : 0 < cents → (shop.users.get? userId).isSome = true := by
    intro hcents
    unfold addUserValidTopupCentsTx at h
    rw [if_neg (by omega)] at h
    cases hget : shop.users.get? userId with
    | none =>
      rw [hget] at h
      cases h
    | some user => rfl
  obtain ⟨users, rfl, husers⟩ := addValidCents_users h
  refine ⟨⟨users, rfl⟩, fun other => ?_, fun other => ?_⟩
  · rw [husers, Option.map_map]
    congr 1
    funext user
    simp only [Function.comp_apply]
    split_ifs
    · rw [(user.credited_eq cents).1, (user.credited_eq cents).2]
    · rfl
  · unfold Shop.centsOf
    rw [husers]
    by_cases hother : other = userId
    · subst hother
      cases hget : shop.users.get? other with
      | none =>
        -- cents for a user who is not there would have been an error
        have hzero : ¬0 < cents := fun hlt => by simpa [hget] using hmissing hlt
        simp only [Option.map_none, Option.elim_none, if_true]
        omega
      | some user =>
        have hid : user.id = other := key_of_get? hget
        simp only [Option.map_some, Option.elim_some, if_true, User.credited, hid]
        split_ifs
        · omega
        · rfl
    · simp [hother]

/-- Making the user a VIP only changes the group. -/
lemma maybeUpgrade_users (h : maybeUpgradeUserToVIPTx env shop userId = .ok (upgraded, shop')) :
    ∃ users, shop' = { shop with users := users } ∧
      ∀ other, users.get? other = (shop.users.get? other).map fun user =>
        if other = userId then user.promoted env (shop.successfulTopUps userId) else user := by
  unfold maybeUpgradeUserToVIPTx at h
  split_ifs at h with hpos
  · cases h
    refine ⟨shop.users, rfl, fun other => ?_⟩
    refine (map_get?_of_fixed (fun user hget => ?_) other).symm
    rw [User.promoted, key_of_get? hget, if_pos (.inl hpos)]
  · split at h
    · cases h
    next user hget =>
      have hid : user.id = userId := key_of_get? hget
      by_cases hstays : user.group = "vip" ∨ isVIPUpgradeableUser user = false
      · rw [if_pos hstays] at h
        cases h
        refine ⟨shop.users, rfl, fun other => ?_⟩
        refine (map_get?_of_fixed (fun row hrow => ?_) other).symm
        rw [hget, Option.some.injEq] at hrow
        subst hrow
        rw [User.promoted, if_pos (.inr (hstays.imp_right .inl))]
      · rw [if_neg hstays] at h
        rw [not_or] at hstays
        by_cases hqualified : env.vipQualified (shop.successfulTopUps userId) = true
        · have hpromoted : user.promoted env (shop.successfulTopUps userId) =
              { user with group := "vip" } := by
            simp [User.promoted, hid, hpos, hstays.1, hstays.2, hqualified]
          replace h := (if_pos hqualified).symm.trans h
          cases h
          rw [← hpromoted]
          refine ⟨_, rfl, get?_put_update
            (User.promoted · env (shop.successfulTopUps userId)) hget ?_⟩
          simp only [hpromoted, hid]
        · replace h := (if_neg hqualified).symm.trans h
          cases h
          refine ⟨shop.users, rfl, fun other => ?_⟩
          refine (map_get?_of_fixed (fun row hrow => ?_) other).symm
          rw [hget, Option.some.injEq] at hrow
          subst hrow
          simp [User.promoted, hqualified]

lemma maybeUpgrade_ok (h : maybeUpgradeUserToVIPTx env shop userId = .ok (upgraded, shop')) :
    (∃ users, shop' = { shop with users := users }) ∧
      ∀ other, shop'.centsOf other = shop.centsOf other := by
  obtain ⟨users, rfl, husers⟩ := maybeUpgrade_users h
  refine ⟨⟨users, rfl⟩, fun other => ?_⟩
  unfold Shop.centsOf
  rw [husers]
  cases shop.users.get? other with
  | none => rfl
  | some user =>
    simp only [Option.map_some, Option.elim_some]
    split_ifs
    · exact user.promoted_validTopupCents env _
    · rfl

/-- The payment of the order brings a commission. -/
def commissionDue (env : ShopEnv) (shop : Shop) (order : SubscriptionOrder) : Bool :=
  (commissionFor env shop (subscriptionTopUp shop order)).isSome

lemma commissionFor_some (h : commissionFor env shop topUp = some commission) :
    shop.commissions.get? topUp.id = none ∧ commission.topupId = topUp.id ∧
      commission.commissionMoney.isFinitePositive = true := by
  unfold commissionFor at h
  split_ifs at h with _ hexisting
  have hnone : shop.commissions.get? topUp.id = none := by simpa using hexisting
  split at h
  · cases h
  · split_ifs at h
    split at h
    · cases h
    · dsimp only at h
      split_ifs at h with hpositive
      cases h
      exact ⟨hnone, rfl, hpositive⟩

lemma commissionFor_new (h : commissionFor env shop topUp = some commission) :
    shop.commissions.get? commission.topupId = none := by
  obtain ⟨hnone, htopUp, -⟩ := commissionFor_some h
  rw [htopUp, hnone]

/-- What the payment of an order changes. -/
structure PaymentRecorded (env : ShopEnv) (shop : Shop) (order : SubscriptionOrder) (shop' : Shop) :
    Prop where
  db : shop'.db = shop.db
  terms : shop'.terms = shop.terms
  upgrades : shop'.upgrades = shop.upgrades
  lastSubscriptionId : shop'.lastSubscriptionId = shop.lastSubscriptionId
  orders : shop'.orders = shop.orders.put { order with status := .success }
  cents : ∀ userId, shop'.centsOf userId =
    shop.centsOf userId + if userId = order.userId then moneyToValidTopupCents order.money else 0
  commissions : shop'.commissions.rows.length =
    shop.commissions.rows.length + if commissionDue env shop order then 1 else 0

/-- The commission is one more row, if there is one. -/
lemma maybeCreateCommission_spec (env : ShopEnv) (shop : Shop) (topUp : TopUp) :
    ∃ commissions, maybeCreateAffiliateCommissionForTopUpTx env shop topUp =
        { shop with commissions := commissions } ∧
      commissions.rows.length = shop.commissions.rows.length +
        if (commissionFor env shop topUp).isSome then 1 else 0 := by
  unfold maybeCreateAffiliateCommissionForTopUpTx
  cases hcommission : commissionFor env shop topUp with
  | none => exact ⟨shop.commissions, rfl, rfl⟩
  | some commission =>
    refine ⟨_, rfl, ?_⟩
    rw [put_rows_of_none (commissionFor_new hcommission), List.length_append]
    rfl

lemma upsertTopUp_ok (h : upsertSubscriptionTopUpTx shop order = .ok (topUp, shop')) :
    topUp = subscriptionTopUp shop order ∧
      shop' = shop.saveTopUp (subscriptionTopUp shop order) := by
  unfold upsertSubscriptionTopUpTx at h
  split at h
  · cases h
    exact ⟨rfl, rfl⟩
  · obtain ⟨_, h⟩ := of_bind h
    cases h
    exact ⟨rfl, rfl⟩

lemma recordPayment_ok (hpos : 0 < order.userId) (h : recordPayment env shop order = .ok shop') :
    PaymentRecorded env shop order shop' := by
  obtain ⟨⟨topUp, shop₁⟩, htopUp, h⟩ := bind_eq_ok.mp h
  obtain ⟨shop₂, hadd, h⟩ := bind_eq_ok.mp h
  obtain ⟨⟨upgraded, shop₃⟩, hvip, h⟩ := bind_eq_ok.mp h
  obtain ⟨rfl, rfl⟩ := upsertTopUp_ok htopUp
  obtain ⟨⟨users, rfl⟩, hinviters, hcents⟩ :=
    addValidCents_ok hpos (moneyToCents_nonneg order.money) hadd
  obtain ⟨commissions, hcreate, hcount⟩ := maybeCreateCommission_spec env
    { shop.saveTopUp (subscriptionTopUp shop order) with users := users }
    (subscriptionTopUp shop order)
  rw [hcreate] at hvip
  obtain ⟨⟨users', rfl⟩, hsame⟩ := maybeUpgrade_ok hvip
  cases h
  refine ⟨rfl, rfl, rfl, rfl, rfl, fun userId => ?_, ?_⟩
  · exact (hsame userId).trans (hcents userId)
  · -- the commission is found as it would be before the payment
    rw [commissionFor_isSome_congr hinviters rfl rfl rfl rfl rfl] at hcount
    exact hcount

/-- A settlement sells the package and records the payment. -/
lemma settleOrder_ok
    (h : settleOrder env shop times order actualPaymentMethod confirmedCover =
      .ok (completed, shop')) :
    ∃ plan sold, getSubscriptionPlanByIdTx shop.db order.planId = .ok plan ∧
      plan.isValuePackage = true ∧
      PackageSold env shop times order.userId plan completed sold ∧
      SaleFrame shop order.userId order.giftResetCount sold ∧
      recordPayment env sold (order.withPayment completed.id actualPaymentMethod) = .ok shop' := by
  obtain ⟨_, h⟩ := of_bind h
  obtain ⟨plan, hplan, h⟩ := bind_eq_ok.mp h
  obtain ⟨hpackage, h⟩ := of_check h
  obtain ⟨intent, hintent, h⟩ := bind_eq_ok.mp h
  obtain ⟨_, h⟩ := of_bind h
  obtain ⟨⟨sub, sold⟩, hsell, h⟩ := bind_eq_ok.mp h
  obtain ⟨paid, hpaid, h⟩ := bind_eq_ok.mp h
  cases h
  obtain ⟨hsold, hframe⟩ :=
    sellValuePackage_sold (checkPurchaseIntent_ok hintent) hpackage hsell
  exact ⟨plan, sold, mapError_eq_ok.mp hplan, hpackage, hsold, hframe, hpaid⟩

/-- A call that does not fail answers for an order that is settled already, or settles a pending
one. -/
theorem completeValuePackageOrder_cases
    (h : completeValuePackageOrder env shop times tradeNo expectedPaymentProvider
      actualPaymentMethod confirmedCover = .ok (completed, shop')) :
    ∃ order, shop.orders.get? tradeNo = some order ∧
      (order.status = .success ∧ shop' = shop ∨
        order.status = .pending ∧
          settleOrder env shop times order actualPaymentMethod confirmedCover =
            .ok (completed, shop')) := by
  obtain ⟨_, h⟩ := of_bind h
  split at h
  · cases h
  · rename_i order hget
    obtain ⟨_, h⟩ := of_bind h
    refine ⟨order, hget, ?_⟩
    split_ifs at h with hsuccess
    · obtain ⟨_, h⟩ := of_bind h
      split at h
      · cases h
      · cases h
        exact .inl ⟨hsuccess, rfl⟩
    · obtain ⟨hpending, h⟩ := of_check h
      exact .inr ⟨hpending, h⟩

lemma expireOrder_cases
    (h : expireSubscriptionOrder shop tradeNo expectedPaymentProvider = .ok ((), shop')) :
    ∃ order, shop.orders.get? tradeNo = some order ∧
      (order.status ≠ .pending ∧ shop' = shop ∨
        order.status = .pending ∧ shop' = shop.saveOrder { order with status := .expired }) := by
  obtain ⟨_, h⟩ := of_bind h
  split at h
  · cases h
  · rename_i order hget
    obtain ⟨_, h⟩ := of_bind h
    refine ⟨order, hget, ?_⟩
    split_ifs at h with hpending
    · cases h
      exact .inl ⟨hpending, rfl⟩
    · cases h
      exact .inr ⟨not_not.mp hpending, rfl⟩

end Yunbay
