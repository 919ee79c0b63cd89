import Yunbay.Payment.Completion
import Yunbay.Ldxp.Verify

/-!
# What a completed top-up leaves

A value package, a code that was paid for and a direct LDXP top-up are booked in the same way: a
successful top-up is written, its cents are added to the user, a commission may be created, and the
user may become a VIP. `TopUpBooked` says what this does to the top-ups and to the users. A regular
subscription adds no cents (`settleRegularOrder_booked`).
-/

namespace Yunbay

open Except

variable {userId cents : Int} {topUp : TopUp} {order : SubscriptionOrder} {times : SaleTimes}
  {tradeNo method key : String} {bank bank' : Bank} {call : RedeemCall} {plan : RedeemPlan}
  {payment : PaymentEnv}

/-- A top-up is written, its cents are added to its user, and the user is promoted if the top-ups
are enough. -/
structure TopUpBooked (env : ShopEnv) (shop : Shop) (topUp : TopUp) (cents : Int) (shop' : Shop) :
    Prop where
  topUps : shop'.topUps = shop.topUps.put topUp
  users : ∀ userId, shop'.users.get? userId = (shop.users.get? userId).map fun user =>
    if userId = topUp.userId then
      (user.credited cents).promoted env ((shop.saveTopUp topUp).successfulTopUps userId)
    else user

/-- Nothing is written, but the user is promoted if the top-ups are enough. -/
structure Reviewed (env : ShopEnv) (shop : Shop) (userId : Int) (shop' : Shop) : Prop where
  topUps : shop'.topUps = shop.topUps
  users : ∀ other, shop'.users.get? other = (shop.users.get? other).map fun user =>
    if other = userId then user.promoted env (shop.successfulTopUps other) else user

variable {env : ShopEnv} {shop shop' : Shop}

/-! ## The end of a booking -/

lemma Shop.successfulTopUps_congr (h : shop'.topUps = shop.topUps) (userId : Int) :
    shop'.successfulTopUps userId = shop.successfulTopUps userId := by
  unfold Shop.successfulTopUps
  rw [h]

lemma maybeCreateCommission_frame (env : ShopEnv) (shop : Shop) (topUp : TopUp) :
    (maybeCreateAffiliateCommissionForTopUpTx env shop topUp).topUps = shop.topUps ∧
      (maybeCreateAffiliateCommissionForTopUpTx env shop topUp).users = shop.users := by
  obtain ⟨commissions, hcreate, -⟩ := maybeCreateCommission_spec env shop topUp
  rw [hcreate]
  exact ⟨rfl, rfl⟩

lemma reviewed_of_upgrade {upgraded : Bool}
    (h : maybeUpgradeUserToVIPTx env shop userId = .ok (upgraded, shop')) :
    Reviewed env shop userId shop' := by
  obtain ⟨users, rfl, hget⟩ := maybeUpgrade_users h
  refine ⟨rfl, fun other => ?_⟩
  rw [hget]
  congr 1
  funext user
  split_ifs with hother
  · rw [hother]
  · rfl

lemma Reviewed.of_commission
    (h : Reviewed env (maybeCreateAffiliateCommissionForTopUpTx env shop topUp) userId shop') :
    Reviewed env shop userId shop' := by
  obtain ⟨htopUps, husers⟩ := maybeCreateCommission_frame env shop topUp
  refine ⟨h.topUps.trans htopUps, fun other => ?_⟩
  rw [h.users, husers, Shop.successfulTopUps_congr htopUps]

lemma booked_of_statements {credited : Shop}
    (hcredit : addUserValidTopupCentsTx (shop.saveTopUp topUp) topUp.userId cents = .ok credited)
    (hreview : Reviewed env credited topUp.userId shop') :
    TopUpBooked env shop topUp cents shop' := by
  obtain ⟨users, rfl, hget⟩ := addValidCents_users hcredit
  refine ⟨hreview.topUps, fun userId => ?_⟩
  rw [hreview.users, hget, Option.map_map]
  congr 1
  funext user
  by_cases huser : userId = topUp.userId
  · simp only [Function.comp_apply, huser, if_true]
    rfl
  · simp [huser]

/-- What a sale leaves alone does not matter to a booking. -/
lemma TopUpBooked.congr_start {sold : Shop} (h : TopUpBooked env sold topUp cents shop')
    (htopUps : sold.topUps = shop.topUps) (husers : sold.users = shop.users) :
    TopUpBooked env shop topUp cents shop' := by
  have hsame : (sold.saveTopUp topUp).topUps = (shop.saveTopUp topUp).topUps := by
    rw [Shop.saveTopUp_topUps, Shop.saveTopUp_topUps, htopUps]
  refine ⟨by rw [h.topUps, htopUps], fun userId => ?_⟩
  rw [h.users, husers, Shop.successfulTopUps_congr hsame]

/-! ## Orders -/

/-- The top-up that is written for an order. -/
structure OrderTopUp (order : SubscriptionOrder) (topUp : TopUp) : Prop where
  tradeNo : topUp.tradeNo = order.tradeNo
  userId : topUp.userId = order.userId
  amount : topUp.amount = 0
  money : topUp.money = order.money
  provider : topUp.paymentProvider = order.paymentProvider
  status : topUp.status = .success

lemma subscriptionTopUp_orderTopUp (shop : Shop) (order : SubscriptionOrder)
    (userSubscriptionId : Int) (method : String) :
    OrderTopUp order (subscriptionTopUp shop (order.withPayment userSubscriptionId method)) :=
  ⟨rfl, rfl, rfl, rfl, rfl, rfl⟩

/-- A top-up that is written over belongs to the user of the order and has no amount. -/
def Overwrites (shop : Shop) (order : SubscriptionOrder) : Prop :=
  ∀ old, shop.topUps.get? order.tradeNo = some old → old.userId = order.userId ∧ ¬0 < old.amount

lemma upsertTopUp_overwrites
    (h : upsertSubscriptionTopUpTx shop order = .ok (topUp, shop')) : Overwrites shop order := by
  intro old hold
  unfold upsertSubscriptionTopUpTx at h
  rw [hold] at h
  obtain ⟨_, hcheck, -⟩ := bind_eq_ok.mp h
  simp only [checkSubscriptionTopUp, bind_eq_ok, check_eq_ok] at hcheck
  obtain ⟨_, huser, _, hamount, -⟩ := hcheck
  exact ⟨huser, hamount⟩

lemma recordPayment_booked (h : recordPayment env shop order = .ok shop') :
    Overwrites shop order ∧
      TopUpBooked env shop (subscriptionTopUp shop order) (moneyToValidTopupCents order.money)
        shop' := by
  obtain ⟨⟨topUp, written⟩, hwrite, h⟩ := bind_eq_ok.mp h
  obtain ⟨credited, hcredit, h⟩ := bind_eq_ok.mp h
  obtain ⟨⟨upgraded, promoted⟩, hpromote, hsave⟩ := bind_eq_ok.mp h
  have hover := upsertTopUp_overwrites hwrite
  obtain ⟨rfl, rfl⟩ := upsertTopUp_ok hwrite
  obtain ⟨htopUps, husers⟩ :=
    booked_of_statements hcredit (reviewed_of_upgrade hpromote).of_commission
  cases hsave
  exact ⟨hover, htopUps, husers⟩

theorem completeValuePackageOrder_booked {expected : String} {confirmedCover : Bool}
    {completed : UserSubscription}
    (h : completeValuePackageOrder env shop times tradeNo expected method confirmedCover =
      .ok (completed, shop')) :
    shop' = shop ∨
      ∃ order topUp, shop.orders.get? tradeNo = some order ∧ order.status = .pending ∧
        (expected = "" ∨ order.paymentProvider = expected) ∧ OrderTopUp order topUp ∧
        Overwrites shop order ∧
        TopUpBooked env shop topUp (moneyToValidTopupCents order.money) shop' := by
  obtain ⟨order, hget, ⟨-, rfl⟩ | ⟨hpending, hsettle⟩⟩ := completeValuePackageOrder_cases h
  · exact .inl rfl
  · obtain ⟨_, h⟩ := of_bind h
    simp only [hget] at h
    obtain ⟨_, hexpected, -⟩ := bind_eq_ok.mp h
    have hprovider : expected = "" ∨ order.paymentProvider = expected := by
      rw [check_eq_ok, not_and_or, not_not, not_not] at hexpected
      exact hexpected
    obtain ⟨plan, sold, -, -, -, hframe, hpaid⟩ := settleOrder_ok hsettle
    obtain ⟨hover, hbooked⟩ := recordPayment_booked hpaid
    refine .inr ⟨order, _, hget, hpending, hprovider,
      subscriptionTopUp_orderTopUp sold order completed.id method, ?_,
      hbooked.congr_start hframe.topUps hframe.users⟩
    intro old hold
    exact hover old (hframe.topUps ▸ hold)

theorem settleRegularOrder_booked (h : settleRegularOrder env shop times order method = .ok shop') :
    ∃ plan topUp, getSubscriptionPlanByIdTx shop.db order.planId = .ok plan ∧
      OrderTopUp order topUp ∧ Overwrites shop order ∧
      TopUpBooked env (shop.upgradeUser order.userId plan) topUp 0 shop' := by
  obtain ⟨⟨created, sold⟩, hcreate, h⟩ := bind_eq_ok.mp h
  obtain ⟨⟨topUp, written⟩, hwrite, h⟩ := bind_eq_ok.mp h
  obtain ⟨⟨upgraded, promoted⟩, hpromote, hsave⟩ := bind_eq_ok.mp h
  obtain ⟨plan, hplan, -, -, -, hsold⟩ := createSubscriptionTx_ok hcreate
  have htopUps : sold.topUps = (shop.upgradeUser order.userId plan).topUps := by
    rw [hsold, Shop.createSubscription_topUps]
  have husers : sold.users = (shop.upgradeUser order.userId plan).users := by
    rw [hsold, Shop.createSubscription_users]
  have hover := upsertTopUp_overwrites hwrite
  obtain ⟨rfl, rfl⟩ := upsertTopUp_ok hwrite
  have hnothing : addUserValidTopupCentsTx
      (sold.saveTopUp (subscriptionTopUp sold (order.withPayment created.id method)))
      order.userId 0 =
        .ok (sold.saveTopUp (subscriptionTopUp sold (order.withPayment created.id method))) :=
    if_pos (.inr le_rfl)
  obtain ⟨hput, hget⟩ := (booked_of_statements hnothing
    (reviewed_of_upgrade hpromote)).congr_start htopUps husers
  cases hsave
  refine ⟨plan, _, hplan, subscriptionTopUp_orderTopUp sold order created.id method, ?_, hput,
    hget⟩
  intro old hold
  obtain ⟨users, hupgrade⟩ := shop.upgradeUser_eq order.userId plan
  rw [hupgrade] at htopUps
  exact hover old (htopUps ▸ hold)

/-! ## Codes -/

/-- A successful top-up of a user under a trade number that was not taken. -/
structure NewTopUp (shop : Shop) (userId : Int) (provider : String) (topUp : TopUp) : Prop where
  fresh : shop.topUps.get? topUp.tradeNo = none
  userId : topUp.userId = userId
  provider : topUp.paymentProvider = provider
  status : topUp.status = .success

/-- The code is for quota and was paid for. -/
def Bank.IsPaidCode (bank : Bank) (key : String) : Prop :=
  ∀ code ∈ bank.codeOf key,
    normalizeRedemptionType code.type = .quota ∧ code.kind = .paidTopUp

instance (bank : Bank) (key : String) : Decidable (bank.IsPaidCode key) :=
  inferInstanceAs (Decidable (∀ code ∈ bank.codeOf key, _))

lemma redeemRead_paid (hpaid : bank.IsPaidCode key) (h : redeemRead key call bank = .ok plan) :
    plan.redemption.type = .quota ∧ plan.redemption.kind = .paidTopUp ∧
      plan.redemption.countAsTopUp = true ∧ 0 < plan.redemption.amount := by
  obtain ⟨_, h⟩ := of_bind h
  obtain ⟨_, h⟩ := of_bind h
  split at h
  · cases h
  next code hcode =>
    obtain ⟨htype, hkind⟩ := hpaid code hcode
    obtain ⟨_, h⟩ := of_bind h
    obtain ⟨_, h⟩ := of_bind h
    have hquota : (normalizeRedeemedRedemption code).type = .quota := htype
    have hpaid : (normalizeRedeemedRedemption code).kind = .paidTopUp := by
      simp [normalizeRedeemedRedemption, hkind]
    simp only [hquota] at h
    obtain ⟨_, hcheck, h⟩ := bind_eq_ok.mp h
    rw [← pure_eq_ok.mp h]
    simp only [checkQuotaCode, bind_eq_ok, check_eq_ok] at hcheck
    obtain ⟨_, -, _, hterms, -⟩ := hcheck
    simp only [hpaid, true_and, not_or, Bool.not_eq_false, not_le] at hterms
    exact ⟨hquota, hpaid, hterms.1, hterms.2.1⟩

lemma redeemCredit
    (h : (redeemProgram env key).run (.addValidTopupCents userId cents) bank = .ok bank') :
    addUserValidTopupCentsTx bank.shop userId cents = .ok bank'.shop := by
  simp only [redeemProgram, runRedeemStatement] at h
  split at h
  · cases h
  next shop hshop =>
    rw [← Except.ok.inj h]
    exact hshop

lemma redeemReview
    (h : (redeemProgram env key).runAll [.createCommission tradeNo, .upgradeToVIP userId] bank =
      .ok bank') : Reviewed env bank.shop userId bank'.shop := by
  obtain ⟨paid, hcommission, h⟩ := bind_eq_ok.mp h
  obtain ⟨promoted, hpromote, h⟩ := bind_eq_ok.mp h
  obtain rfl := Except.ok.inj h
  simp only [redeemProgram, runRedeemStatement] at hcommission
  split at hcommission
  · cases hcommission
  next topUp htopUp =>
    obtain rfl := Except.ok.inj hcommission
    simp only [redeemProgram, runRedeemStatement, Bank.onShop] at hpromote
    split at hpromote
    · cases hpromote
    next upgraded shop hshop =>
      rw [← Except.ok.inj hpromote]
      exact (reviewed_of_upgrade hshop).of_commission

theorem redeemWithTx_booked (hpaid : bank.IsPaidCode key)
    (h : redeemWithTx env bank key call = .ok (plan, bank')) :
    ∃ topUp, NewTopUp bank.shop call.userId "redemption_code" topUp ∧ 0 < topUp.amount ∧
      TopUpBooked env bank.shop topUp (validTopupCentsForTopUp topUp.amount topUp.money)
        bank'.shop := by
  obtain ⟨plan, hread, h⟩ := bind_eq_ok.mp h
  obtain ⟨after, hrun, h⟩ := bind_eq_ok.mp h
  obtain ⟨rfl, rfl⟩ := Prod.mk.inj (pure_eq_ok.mp h)
  obtain ⟨htype, hkind, hcount, hamount⟩ := redeemRead_paid hpaid hread
  obtain ⟨claimed, hclaim, hrun⟩ := bind_eq_ok.mp hrun
  have hclaimed : claimed.shop = bank.shop := by
    simp only [redeemProgram, runRedeemStatement, Bank.claim] at hclaim
    split at hclaim
    · cases hclaim
    · split_ifs at hclaim
      rw [← Except.ok.inj hclaim]
  simp only [creditStatements, htype, hkind, hcount, and_self, if_true] at hrun
  obtain ⟨funded, hfund, hrun⟩ := bind_eq_ok.mp hrun
  obtain ⟨written, hwrite, hrun⟩ := bind_eq_ok.mp hrun
  obtain ⟨credited, hcredit, hrun⟩ := bind_eq_ok.mp hrun
  have hfunded : funded.shop = bank.shop := by
    simp only [redeemProgram, runRedeemStatement] at hfund
    split_ifs at hfund
    rw [← Except.ok.inj hfund, Bank.addQuota_shop, hclaimed]
  obtain ⟨topUp, rfl, hfresh, hwritten⟩ : ∃ topUp : TopUp,
      topUp = ⟨createRedemptionTopUpTradeNo plan.redemption.id call.userId,
        bank.shop.nextTopUpId, call.userId, plan.redemption.amount, plan.redemption.money,
        "redemption_code", "redemption_code", .success⟩ ∧
      bank.shop.topUps.get? topUp.tradeNo = none ∧ written.shop = bank.shop.saveTopUp topUp := by
    simp only [redeemProgram, runRedeemStatement, Bank.createTopUp, hfunded] at hwrite
    split_ifs at hwrite with htaken
    refine ⟨_, rfl, by simpa using htaken, ?_⟩
    rw [← Except.ok.inj hwrite, Bank.withShop_shop]
  have hcents := redeemCredit hcredit
  rw [hwritten] at hcents
  exact ⟨_, ⟨hfresh, rfl, rfl, rfl⟩, hamount, booked_of_statements hcents (redeemReview hrun)⟩

/-! ## Direct top-ups -/

section Direct

variable {ldxp : LdxpEnv} {call : LdxpVerifyCall} {session : LdxpTopupSession}
  {ledger ledger' : LdxpLedger}

lemma tryDirectStatement_run {statement : DirectStatement}
    (h : tryDirectStatement ldxp call session statement ledger = .ok ledger') :
    runDirectStatement ldxp call session ledger statement = .ok ledger' := by
  unfold tryDirectStatement at h
  split_ifs at h
  exact h

lemma directReview
    (h : Statements.run (tryDirectStatement ldxp call session) [.createCommission, .upgradeVIP]
      ledger = (none, ledger')) :
    Reviewed ldxp.shop ledger.bank.shop session.userId ledger'.bank.shop := by
  obtain ⟨paid, hcommission, h⟩ := Statements.run_cons_eq_none h
  obtain ⟨promoted, hpromote, h⟩ := Statements.run_cons_eq_none h
  obtain rfl : promoted = ledger' := congrArg Prod.snd h
  have hpaid := Except.ok.inj (tryDirectStatement_run hcommission)
  have hupgrade := tryDirectStatement_run hpromote
  simp only [runDirectStatement] at hupgrade
  split at hupgrade
  · cases hupgrade
  next upgraded shop hshop =>
    rw [← Except.ok.inj hupgrade]
    have hreview := reviewed_of_upgrade hshop
    -- the commission is for the top-up of the session, if there is one
    cases htopUp : topUpOf session ledger with
    | none =>
      rw [htopUp, Option.elim_none] at hpaid
      rw [← hpaid] at hreview
      exact hreview
    | some topUp =>
      rw [htopUp, Option.elim_some] at hpaid
      rw [← hpaid] at hreview
      exact hreview.of_commission

theorem directTopUpLdxpSessionTx_booked
    (h : (directTopUpLdxpSessionTx ldxp call session ledger).error = none) :
    Reviewed ldxp.shop ledger.bank.shop session.userId
        (directTopUpLdxpSessionTx ldxp call session ledger).ledger.bank.shop ∨
      NewTopUp ledger.bank.shop session.userId "ldxp" (directTopUp session ledger.bank.shop) ∧
        TopUpBooked ldxp.shop ledger.bank.shop (directTopUp session ledger.bank.shop)
          (amountToValidTopupCents session.amount)
          (directTopUpLdxpSessionTx ldxp call session ledger).ledger.bank.shop := by
  unfold directTopUpLdxpSessionTx at h ⊢
  dsimp only at h ⊢
  split_ifs at h ⊢
  cases htopUp : topUpOf session ledger with
  | some existing =>
    simp only [htopUp] at h ⊢
    split_ifs at h ⊢
    exact .inl (directReview (Prod.ext h rfl))
  | none =>
    simp only [htopUp] at h ⊢
    obtain ⟨written, hwrite, hrun⟩ := Statements.run_cons_eq_none (Prod.ext h rfl)
    obtain ⟨funded, hfund, hrun⟩ := Statements.run_cons_eq_none hrun
    obtain ⟨credited, hcredit, hrun⟩ := Statements.run_cons_eq_none hrun
    have hwritten := Except.ok.inj (tryDirectStatement_run hwrite)
    have hfunded := Except.ok.inj (tryDirectStatement_run hfund)
    have hshop : funded.bank.shop =
        ledger.bank.shop.saveTopUp (directTopUp session ledger.bank.shop) := by
      rw [← hfunded, ← hwritten]
      split_ifs <;> rfl
    have hcents := tryDirectStatement_run hcredit
    simp only [runDirectStatement, hshop] at hcents
    split at hcents
    · cases hcents
    next shop hadd =>
      rw [← Except.ok.inj hcents] at hrun
      exact .inr ⟨⟨htopUp, rfl, rfl, rfl⟩, booked_of_statements hadd (directReview hrun)⟩

end Direct

/-! ## The other providers -/

lemma runPaymentStatement_users {statement : PaymentStatement}
    (hsettle : ∀ times order method, statement ≠ .settleOrder times order method)
    (h : runPaymentStatement payment statement bank = .ok bank') :
    bank'.shop.users = bank.shop.users := by
  cases statement with
  | saveTopUp | addQuota =>
    rw [← Except.ok.inj h]
    rfl
  | checkQuota | findUser =>
    simp only [runPaymentStatement] at h
    split_ifs at h
    rw [← Except.ok.inj h]
  | createCommission topUp =>
    rw [← Except.ok.inj h]
    exact (maybeCreateCommission_frame payment.shop bank.shop topUp).2
  | settleOrder times order method => exact absurd rfl (hsettle times order method)

lemma paymentWrites_topUp (call : PaymentCall) (copy : TopUp) (quota : Int) :
    ∀ statement ∈ paymentWrites call (.topUp copy quota), ∀ times order method,
      statement ≠ .settleOrder times order method := by
  have hchecks : ∀ statement ∈ checksAfterSave copy.userId quota call, ∀ times order method,
      statement ≠ .settleOrder times order method := by
    unfold checksAfterSave
    split
    · simp
    · split_ifs <;> simp
    · simp
  intro statement hmem
  unfold paymentWrites at hmem
  dsimp only at hmem
  split at hmem
  · simp_all
  · simp only [List.cons_append, List.mem_cons, List.mem_append, List.not_mem_nil, or_false] at hmem
    rcases hmem with rfl | hmem | rfl | rfl
    · simp
    · exact hchecks statement hmem
    · simp
    · simp

/-- The functions of the other providers write the top-up and leave the users alone. -/
theorem topUpWrites_unbooked {call : PaymentCall} {copy : TopUp} {quota : Int}
    (h : (paymentProgram payment tradeNo).runAll (paymentWrites call (.topUp copy quota)) bank =
      .ok bank') :
    bank'.shop.topUps = bank.shop.topUps.put (savedTopUp copy call) ∧
      bank'.shop.users = bank.shop.users := by
  refine ⟨(topUpWrites_saved h).topUps, ?_⟩
  have hstatements := paymentWrites_topUp call copy quota
  revert h hstatements
  generalize paymentWrites call (.topUp copy quota) = statements
  intro h hstatements
  induction statements generalizing bank with
  | nil => rw [← Except.ok.inj h]
  | cons statement statements ih =>
    obtain ⟨middle, hfirst, hrest⟩ := bind_eq_ok.mp h
    rw [List.forall_mem_cons] at hstatements
    rw [ih hrest hstatements.2]
    exact runPaymentStatement_users hstatements.1 hfirst

end Yunbay
