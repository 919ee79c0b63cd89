import Yunbay.Affiliate.Payouts
import Yunbay.Payment.Booking

/-!
# The group of a VIP follows the top-ups

A common user in the default group is to be a VIP once the successful top-ups add up to
`VIPUpgradeThresholdMoney`. Each function decides for itself whether to look: subscriptions, value
packages, codes and direct LDXP top-ups end with `MaybeUpgradeUserToVIPTx`, while the recharge
functions and `ManualCompleteTopUp` do not. Money is counted in cents.
-/

namespace Yunbay

open Except Run Table

variable {topUp : TopUp} {userId cents owner : Int} {ledger : LdxpLedger} {bank bank' : Bank}
  {tradeNo expected method : String} {times : SaleTimes} {payment : PaymentEnv} {copy : PaymentCopy}

/-! ## Qualified amounts -/

/-- `VIPUpgradeThresholdMoney`, in cents. -/
def vipUpgradeThresholdMoney : Int := 3000

/-- `topUpVIPQualifiedAmount`, in cents. -/
def topUpVIPQualifiedAmount (topUp : TopUp) : Int :=
  if 0 < topUp.amount then topUp.amount * 100 else topUp.money.cents

/-- The sum of `MaybeUpgradeUserToVIPTx`, in cents. -/
def totalVIPAmount (topUps : List TopUp) : Int := (topUps.map topUpVIPQualifiedAmount).sum

/-- The test of `MaybeUpgradeUserToVIPTx`, in cents. -/
def reachesVIP (topUps : List TopUp) : Bool := vipUpgradeThresholdMoney ≤ totalVIPAmount topUps

/-- Surroundings in which money is counted in cents. -/
structure VipEnv where
  payment : PaymentEnv
  ldxp : LdxpEnv
  payment_cents : payment.shop.vipQualified = reachesVIP
  ldxp_cents : ldxp.shop.vipQualified = reachesVIP

/-- The sum of a user. -/
def Shop.vipAmount (shop : Shop) (userId : Int) : Int :=
  totalVIPAmount (shop.successfulTopUps userId)

/-- What a top-up adds to the sum of a user. -/
def TopUp.vipFor (topUp : TopUp) (userId : Int) : Int :=
  if topUp.userId = userId ∧ topUp.status = .success then topUpVIPQualifiedAmount topUp else 0

lemma TopUp.vipFor_of_ne (h : topUp.userId ≠ userId) : topUp.vipFor userId = 0 :=
  if_neg fun hand => h hand.1

lemma TopUp.vipFor_of_status (h : topUp.status ≠ .success) : topUp.vipFor userId = 0 :=
  if_neg fun hand => h hand.2

variable {env : ShopEnv} {shop shop' : Shop} {user : User}

lemma vipAmount_eq_sumBy (shop : Shop) (userId : Int) :
    shop.vipAmount userId = shop.topUps.sumBy (·.vipFor userId) :=
  sum_filter (fun topUp : TopUp => topUp.userId = userId ∧ topUp.status = .success)
    topUpVIPQualifiedAmount shop.topUps.rows

/-- A write over a top-up that did not add to the sum. -/
lemma vipAmount_put (hold : ∀ old ∈ shop.topUps.get? topUp.tradeNo, old.vipFor userId = 0)
    (hput : shop'.topUps = shop.topUps.put topUp) :
    shop'.vipAmount userId = shop.vipAmount userId + topUp.vipFor userId := by
  have hzero : (shop.topUps.get? topUp.tradeNo).elim 0 (·.vipFor userId) = 0 := by
    cases hget : shop.topUps.get? topUp.tradeNo with
    | none => rfl
    | some old => exact hold old hget
  rw [vipAmount_eq_sumBy, hput, sumBy_put, hzero, sub_zero, vipAmount_eq_sumBy]

/-! ## The user -/

/-- The user is a common user in the default group or a VIP, as the top-ups say. -/
structure FollowsTopUps (shop : Shop) (userId : Int) (user : User) : Prop where
  stored : shop.users.get? userId = some user
  common : user.isCommonUser = true
  group : user.group = "vip" ∨ user.group = "default"
  follows : user.group = "vip" ↔ vipUpgradeThresholdMoney ≤ shop.vipAmount userId

lemma User.promoted_group (topUps : List TopUp) (hcents : env.vipQualified = reachesVIP)
    (hpos : 0 < user.id) (hcommon : user.isCommonUser = true)
    (hgroup : user.group = "vip" ∨ user.group = "default") :
    ((user.promoted env topUps).group = "vip" ∨ (user.promoted env topUps).group = "default") ∧
      ((user.promoted env topUps).group = "vip" ↔
        user.group = "vip" ∨ vipUpgradeThresholdMoney ≤ totalVIPAmount topUps) := by
  have hid : ¬user.id ≤ 0 := by omega
  rcases hgroup with hvip | hdefault
  · have hsame : user.promoted env topUps = user := if_pos (.inr (.inl hvip))
    rw [hsame]
    exact ⟨.inl hvip, iff_of_true hvip (.inl hvip)⟩
  · have hupgradeable : isVIPUpgradeableUser user = true := by
      simp [isVIPUpgradeableUser, hcommon, hdefault]
    have hne : user.group ≠ "vip" := by
      rw [hdefault]
      decide
    by_cases hreached : vipUpgradeThresholdMoney ≤ totalVIPAmount topUps
    · have hpromoted : user.promoted env topUps = { user with group := "vip" } := by
        refine if_neg ?_
        simp [hid, hne, hupgradeable, hcents, reachesVIP, hreached]
      rw [hpromoted]
      exact ⟨.inl rfl, iff_of_true rfl (.inr hreached)⟩
    · have hsame : user.promoted env topUps = user := by
        refine if_pos (.inr (.inr (.inr ?_)))
        simp [hcents, reachesVIP, hreached]
      rw [hsame]
      exact ⟨.inr hdefault, iff_of_false hne (not_or.mpr ⟨hne, hreached⟩)⟩

lemma User.promoted_isCommonUser (user : User) (env : ShopEnv) (topUps : List TopUp) :
    (user.promoted env topUps).isCommonUser = user.isCommonUser := by
  unfold User.promoted
  split_ifs <;> rfl

lemma User.credited_group (user : User) (cents : Int) :
    (user.credited cents).group = user.group ∧
      (user.credited cents).isCommonUser = user.isCommonUser := by
  unfold User.credited
  split_ifs <;> exact ⟨rfl, rfl⟩

/-- The sum has not become smaller, and the user has been looked at after the change. -/
lemma FollowsTopUps.promote {credited : User} (h : FollowsTopUps shop userId user)
    (hpos : 0 < userId) (hcents : env.vipQualified = reachesVIP)
    (hgroup : credited.group = user.group) (hcommon : credited.isCommonUser = user.isCommonUser)
    (hid : credited.id = user.id) (hle : shop.vipAmount userId ≤ shop'.vipAmount userId)
    (hstored : shop'.users.get? userId =
      some (credited.promoted env (shop'.successfulTopUps userId))) :
    FollowsTopUps shop' userId (credited.promoted env (shop'.successfulTopUps userId)) := by
  have huser : credited.id = userId := hid.trans (key_of_get? h.stored)
  obtain ⟨hgroups, hiff⟩ := User.promoted_group (shop'.successfulTopUps userId) hcents
    (huser ▸ hpos) (hcommon.trans h.common) (hgroup ▸ h.group)
  refine ⟨hstored, ?_, hgroups, hiff.trans ?_⟩
  · rw [User.promoted_isCommonUser, hcommon, h.common]
  · rw [hgroup, h.follows]
    exact ⟨fun hor => hor.elim hle.trans' id, .inr⟩

/-- A user who is not touched still follows a sum that has not changed, or has not reached the
threshold. -/
lemma FollowsTopUps.keep (h : FollowsTopUps shop userId user)
    (hstored : shop'.users.get? userId = some user)
    (hle : shop.vipAmount userId ≤ shop'.vipAmount userId)
    (hbelow : user.group = "vip" ∨ shop'.vipAmount userId = shop.vipAmount userId ∨
      shop'.vipAmount userId < vipUpgradeThresholdMoney) : FollowsTopUps shop' userId user := by
  refine ⟨hstored, h.common, h.group, ?_⟩
  rcases hbelow with hvip | hsame | hbelow
  · exact iff_of_true hvip ((h.follows.mp hvip).trans hle)
  · rw [hsame]
    exact h.follows
  · refine iff_of_false (fun hvip => ?_) (not_le.mpr hbelow)
    have hreached := (h.follows.mp hvip).trans hle
    omega

lemma TopUpBooked.follows (h : TopUpBooked env shop topUp cents shop')
    (hcents : env.vipQualified = reachesVIP) (hpos : 0 < userId)
    (huser : FollowsTopUps shop userId user)
    (hold : ∀ old ∈ shop.topUps.get? topUp.tradeNo, old.vipFor userId = 0)
    (hnew : 0 ≤ topUp.vipFor userId) : ∃ user', FollowsTopUps shop' userId user' := by
  have hamount := vipAmount_put hold h.topUps
  have hstored := h.users userId
  rw [huser.stored, Option.map_some] at hstored
  by_cases hown : userId = topUp.userId
  · rw [if_pos hown] at hstored
    have hsame : (shop.saveTopUp topUp).successfulTopUps userId = shop'.successfulTopUps userId :=
      Shop.successfulTopUps_congr h.topUps.symm userId
    rw [hsame] at hstored
    obtain ⟨hgroup, hcommon⟩ := user.credited_group cents
    exact ⟨_, huser.promote hpos hcents hgroup hcommon (user.credited_eq cents).1 (by omega)
      hstored⟩
  · rw [if_neg hown] at hstored
    have hzero : topUp.vipFor userId = 0 := TopUp.vipFor_of_ne (Ne.symm hown)
    exact ⟨user, huser.keep hstored (by omega) (.inr (.inl (by omega)))⟩

lemma Reviewed.follows {reviewed : Int} (h : Reviewed env shop reviewed shop')
    (hcents : env.vipQualified = reachesVIP) (hpos : 0 < userId)
    (huser : FollowsTopUps shop userId user) : ∃ user', FollowsTopUps shop' userId user' := by
  have hamount : shop'.vipAmount userId = shop.vipAmount userId := by
    rw [Shop.vipAmount, Shop.successfulTopUps_congr h.topUps, Shop.vipAmount]
  have hstored := h.users userId
  rw [huser.stored, Option.map_some] at hstored
  split_ifs at hstored with hown
  · rw [← Shop.successfulTopUps_congr h.topUps] at hstored
    exact ⟨_, huser.promote hpos hcents rfl rfl rfl hamount.ge hstored⟩
  · exact ⟨user, huser.keep hstored hamount.ge (.inr (.inl hamount))⟩

/-! ## Runs -/

/-- A completion function, all at once. -/
def completePayment (env : PaymentEnv) (tradeNo : String) (call : PaymentCall) (bank : Bank) :
    Except PaymentError (PaymentCopy × Bank) := do
  let copy ← paymentRead env tradeNo call bank
  let bank ← (paymentProgram env tradeNo).runAll (paymentWrites call copy) bank
  pure (copy, bank)

/-- A call, each of which is one transaction. -/
inductive VipOp where
  /-- A provider's order of a top-up is stored. -/
  | openTopUp (topUp : TopUp)
  /-- An order of a subscription is stored. -/
  | openOrder (order : SubscriptionOrder)
  /-- A completion function on the order with a trade number. -/
  | complete (tradeNo : String) (call : PaymentCall)
  /-- `CompleteValuePackageOrder`. -/
  | completePackage (times : SaleTimes) (tradeNo : String)
      (expectedPaymentProvider actualPaymentMethod : String) (confirmedCover : Bool)
  /-- `RedeemWithTx`. -/
  | redeem (key : String) (call : RedeemCall)
  /-- `directTopUpLdxpSessionTx`. -/
  | direct (call : LdxpVerifyCall) (session : LdxpTopupSession)

/-- The effect of a call. One that fails is rolled back. -/
def vipStep (env : VipEnv) (ledger : LdxpLedger) : VipOp → LdxpLedger
  | .openTopUp topUp =>
    if (ledger.bank.shop.topUps.get? topUp.tradeNo).isSome then ledger
    else
      ledger.withShop (ledger.bank.shop.saveTopUp
        { topUp with id := ledger.bank.shop.nextTopUpId, status := .pending })
  | .openOrder order =>
    if (ledger.bank.shop.orders.get? order.tradeNo).isSome then ledger
    else ledger.withShop (ledger.bank.shop.saveOrder { order with status := .pending })
  | .complete tradeNo call =>
    { ledger with
      bank := commit ledger.bank (completePayment env.payment tradeNo call ledger.bank) }
  | .completePackage times tradeNo expected method confirmedCover =>
    ledger.withShop (commit ledger.bank.shop
      (completeValuePackageOrder env.ldxp.shop ledger.bank.shop times tradeNo expected method
        confirmedCover))
  | .redeem key call =>
    { ledger with
      bank := commit ledger.bank (redeemWithTx env.ldxp.shop ledger.bank key call) }
  | .direct call session =>
    let phase := directTopUpLdxpSessionTx env.ldxp call session ledger
    if phase.error = none then phase.ledger else ledger

/-- A pending top-up of the user is not negative, and does not take the user to the threshold. -/
def Shop.StaysBelow (shop : Shop) (userId : Int) (tradeNo : String) : Prop :=
  ∀ topUp ∈ shop.topUps.get? tradeNo, topUp.status = .pending → topUp.userId = userId →
    0 ≤ topUpVIPQualifiedAmount topUp ∧
      (shop.groupOf userId = "vip" ∨
        shop.vipAmount userId + topUpVIPQualifiedAmount topUp < vipUpgradeThresholdMoney)

instance (shop : Shop) (userId : Int) (tradeNo : String) :
    Decidable (shop.StaysBelow userId tradeNo) :=
  inferInstanceAs (Decidable (∀ topUp ∈ shop.topUps.get? tradeNo, _ → _ → _))

/-- A pending order of the user is not negative, and has no successful top-up. -/
def Shop.IsNewPayment (shop : Shop) (userId : Int) (tradeNo : String) : Prop :=
  ∀ order ∈ shop.orders.get? tradeNo, order.status = .pending → order.userId = userId →
    0 ≤ order.money.cents ∧ ∀ topUp ∈ shop.topUps.get? tradeNo, topUp.status ≠ .success

instance (shop : Shop) (userId : Int) (tradeNo : String) :
    Decidable (shop.IsNewPayment userId tradeNo) :=
  inferInstanceAs (Decidable (∀ order ∈ shop.orders.get? tradeNo, _ → _ → _))

/-- The plan of an order of the user has no upgrade group. -/
def Shop.KeepsGroup (shop : Shop) (userId : Int) (tradeNo : String) : Prop :=
  ∀ order ∈ shop.orders.get? tradeNo, order.userId = userId →
    ∀ plan ∈ (getSubscriptionPlanByIdTx shop.db order.planId).toOption,
      trimSpace (shop.termsOf plan).upgradeGroup = ""

instance (shop : Shop) (userId : Int) (tradeNo : String) :
    Decidable (shop.KeepsGroup userId tradeNo) :=
  inferInstanceAs (Decidable (∀ order ∈ shop.orders.get? tradeNo, _ → _))

/-- The function that ends with `MaybeUpgradeUserToVIPTx`. -/
def PaymentCall.upgrades : PaymentCall → Bool
  | .completeSubscriptionOrder _ _ _ => true
  | _ => false

/-- The condition on a call, for one user. -/
def VipOp.IsRegular (userId : Int) (ledger : LdxpLedger) : VipOp → Prop
  | .openTopUp _ => True
  | .openOrder _ => True
  | .complete tradeNo call =>
    if call.upgrades then
      ledger.bank.shop.IsNewPayment userId tradeNo ∧ ledger.bank.shop.KeepsGroup userId tradeNo
    else ledger.bank.shop.StaysBelow userId tradeNo
  | .completePackage _ tradeNo _ _ _ => ledger.bank.shop.IsNewPayment userId tradeNo
  | .redeem key _ => ledger.bank.IsPaidCode key
  | .direct _ session =>
    session.userId = userId →
      0 ≤ topUpVIPQualifiedAmount (directTopUp session ledger.bank.shop)

instance (userId : Int) (ledger : LdxpLedger) :
    (op : VipOp) → Decidable (op.IsRegular userId ledger)
  | .openTopUp _ => isTrue trivial
  | .openOrder _ => isTrue trivial
  | .complete _ call => inferInstanceAs (Decidable (if call.upgrades then _ ∧ _ else _))
  | .completePackage _ tradeNo _ _ _ =>
    inferInstanceAs (Decidable (ledger.bank.shop.IsNewPayment userId tradeNo))
  | .redeem key _ => inferInstanceAs (Decidable (ledger.bank.IsPaidCode key))
  | .direct _ _ => inferInstanceAs (Decidable (_ → _))

/-! ## Steps -/

lemma NewTopUp.vipFor_old {provider : String} (h : NewTopUp shop owner provider topUp) :
    ∀ old ∈ shop.topUps.get? topUp.tradeNo, old.vipFor userId = 0 := by
  rw [h.fresh]
  simp

lemma direct_follows {ldxp : LdxpEnv} {call : LdxpVerifyCall} {session : LdxpTopupSession}
    (hcents : ldxp.shop.vipQualified = reachesVIP) (hpos : 0 < userId)
    (huser : FollowsTopUps ledger.bank.shop userId user)
    (hamount : session.userId = userId →
      0 ≤ topUpVIPQualifiedAmount (directTopUp session ledger.bank.shop))
    (hok : (directTopUpLdxpSessionTx ldxp call session ledger).error = none) :
    ∃ user', FollowsTopUps (directTopUpLdxpSessionTx ldxp call session ledger).ledger.bank.shop
      userId user' := by
  obtain hreviewed | ⟨hnew, hbooked⟩ := directTopUpLdxpSessionTx_booked hok
  · exact hreviewed.follows hcents hpos huser
  · refine hbooked.follows hcents hpos huser hnew.vipFor_old ?_
    unfold TopUp.vipFor
    split_ifs with hown
    · exact hamount hown.1
    · exact le_rfl

section

variable (hcents : env.vipQualified = reachesVIP) (hpos : 0 < userId)

include hcents hpos

lemma redeem_follows {key : String} {call : RedeemCall} {plan : RedeemPlan}
    (huser : FollowsTopUps bank.shop userId user) (hpaid : bank.IsPaidCode key)
    (hok : redeemWithTx env bank key call = .ok (plan, bank')) :
    ∃ user', FollowsTopUps bank'.shop userId user' := by
  obtain ⟨topUp, hnew, hamount, hbooked⟩ := redeemWithTx_booked hpaid hok
  refine hbooked.follows hcents hpos huser hnew.vipFor_old ?_
  rw [TopUp.vipFor, topUpVIPQualifiedAmount, if_pos hamount]
  split_ifs <;> omega

lemma order_follows {order : SubscriptionOrder} (huser : FollowsTopUps shop userId user)
    (htopUp : OrderTopUp order topUp) (hget : order.tradeNo = tradeNo)
    (hover : Overwrites shop order)
    (hnew : order.userId = userId →
      0 ≤ order.money.cents ∧ ∀ topUp ∈ shop.topUps.get? tradeNo, topUp.status ≠ .success)
    (hbooked : TopUpBooked env shop topUp cents shop') :
    ∃ user', FollowsTopUps shop' userId user' := by
  refine hbooked.follows hcents hpos huser (fun old hold => ?_) ?_
  · rw [htopUp.tradeNo] at hold
    by_cases hown : order.userId = userId
    · exact TopUp.vipFor_of_status ((hnew hown).2 old (hget ▸ hold))
    · -- the row that is written over belongs to the user of the order
      exact TopUp.vipFor_of_ne ((hover old hold).1.trans_ne hown)
  · have hamount : topUpVIPQualifiedAmount topUp = order.money.cents := by
      simp [topUpVIPQualifiedAmount, htopUp.amount, htopUp.money]
    unfold TopUp.vipFor
    split_ifs with hown
    · rw [hamount]
      exact (hnew (htopUp.userId.symm.trans hown.1)).1
    · exact le_rfl

lemma completePackage_follows {confirmedCover : Bool} {completed : UserSubscription}
    (huser : FollowsTopUps shop userId user) (hnew : shop.IsNewPayment userId tradeNo)
    (hok : completeValuePackageOrder env shop times tradeNo expected method confirmedCover =
      .ok (completed, shop')) : ∃ user', FollowsTopUps shop' userId user' := by
  obtain rfl | ⟨order, topUp, hget, hpending, -, htopUp, hover, hbooked⟩ :=
    completeValuePackageOrder_booked hok
  · exact ⟨user, huser⟩
  · exact order_follows hcents hpos huser htopUp (key_of_get? hget) hover
      (hnew order hget hpending) hbooked

end

lemma FollowsTopUps.upgradeUser {plan : SubscriptionPlan} (h : FollowsTopUps shop userId user)
    (hgroup : owner = userId → trimSpace (shop.termsOf plan).upgradeGroup = "") :
    FollowsTopUps (shop.upgradeUser owner plan) userId user := by
  obtain ⟨users, husers⟩ := shop.upgradeUser_eq owner plan
  have htopUps : (shop.upgradeUser owner plan).topUps = shop.topUps := by rw [husers]
  have hamount : (shop.upgradeUser owner plan).vipAmount userId = shop.vipAmount userId := by
    rw [Shop.vipAmount, Shop.successfulTopUps_congr htopUps, Shop.vipAmount]
  refine h.keep ?_ hamount.ge (.inr (.inl hamount))
  unfold Shop.upgradeUser
  split_ifs with hmoves
  · have hother : owner ≠ userId := fun hown => hmoves.1 (hgroup hown)
    unfold Shop.setGroup
    split
    · exact h.stored
    next moved hmoved =>
      rw [Shop.saveUser_users, get?_put_of_ne, h.stored]
      exact (key_of_get? hmoved).trans_ne hother
  · exact h.stored

lemma completeOrder_follows (hcents : payment.shop.vipQualified = reachesVIP)
    (hpos : 0 < userId) (huser : FollowsTopUps bank.shop userId user)
    (hnew : bank.shop.IsNewPayment userId tradeNo) (hgroup : bank.shop.KeepsGroup userId tradeNo)
    (hok : completePayment payment tradeNo (.completeSubscriptionOrder times expected method) bank =
      .ok (copy, bank')) : ∃ user', FollowsTopUps bank'.shop userId user' := by
  obtain ⟨copy, hread, h⟩ := bind_eq_ok.mp hok
  obtain ⟨after, hrun, h⟩ := bind_eq_ok.mp h
  obtain ⟨rfl, rfl⟩ := Prod.mk.inj (pure_eq_ok.mp h)
  obtain ⟨_, hread⟩ := of_bind hread
  by_cases hsettled : copy = .settled
  · subst hsettled
    obtain rfl := Except.ok.inj hrun
    exact ⟨user, huser⟩
  · obtain ⟨order, rfl, hget, hpending⟩ := readOrder_pending hread hsettled
    obtain ⟨settled, hsettle, hlast⟩ := bind_eq_ok.mp hrun
    obtain rfl := Except.ok.inj hlast
    simp only [paymentProgram, runPaymentStatement] at hsettle
    split at hsettle
    · cases hsettle
    next shop' hshop' =>
      obtain rfl := Except.ok.inj hsettle
      obtain ⟨plan, topUp, hplan, htopUp, hover, hbooked⟩ := settleRegularOrder_booked hshop'
      obtain ⟨users, husers⟩ := bank.shop.upgradeUser_eq order.userId plan
      have htopUps : (bank.shop.upgradeUser order.userId plan).topUps = bank.shop.topUps := by
        rw [husers]
      have hmoved : FollowsTopUps (bank.shop.upgradeUser order.userId plan) userId user := by
        apply huser.upgradeUser
        intro hown
        refine hgroup order hget hown plan ?_
        rw [hplan]
        rfl
      refine order_follows hcents hpos hmoved htopUp (key_of_get? hget) ?_ ?_ hbooked
      · intro old hold
        exact hover old (htopUps ▸ hold)
      · rw [htopUps]
        exact hnew order hget hpending

lemma savedTopUp_eq (copy : TopUp) (call : PaymentCall) :
    (savedTopUp copy call).tradeNo = copy.tradeNo ∧ (savedTopUp copy call).userId = copy.userId ∧
      topUpVIPQualifiedAmount (savedTopUp copy call) = topUpVIPQualifiedAmount copy := by
  unfold savedTopUp
  split <;> exact ⟨rfl, rfl, rfl⟩

/-- A recharge that is not negative, and after which the user is a VIP already or below the
threshold. -/
lemma recharge_follows {call : PaymentCall} (hcall : call.upgrades = false)
    (huser : FollowsTopUps bank.shop userId user) (hbelow : bank.shop.StaysBelow userId tradeNo)
    (hok : completePayment payment tradeNo call bank = .ok (copy, bank')) :
    ∃ user', FollowsTopUps bank'.shop userId user' := by
  obtain ⟨copy, hread, h⟩ := bind_eq_ok.mp hok
  obtain ⟨after, hrun, h⟩ := bind_eq_ok.mp h
  obtain ⟨rfl, rfl⟩ := Prod.mk.inj (pure_eq_ok.mp h)
  by_cases hsettled : copy = .settled
  · subst hsettled
    obtain rfl := Except.ok.inj hrun
    exact ⟨user, huser⟩
  · obtain ⟨topUp, quota, rfl, hget, hpending⟩ | ⟨order, times, expected, method, -, rfl, -⟩ :=
      paymentRead_pending hread hsettled
    · obtain ⟨hput, husers⟩ := topUpWrites_unbooked hrun
      obtain ⟨htradeNo, howner, hvalue⟩ := savedTopUp_eq topUp call
      have hkey : topUp.tradeNo = tradeNo := key_of_get? hget
      have hold : ∀ old ∈ bank.shop.topUps.get? (savedTopUp topUp call).tradeNo,
          old.vipFor userId = 0 := by
        intro old hold
        rw [htradeNo, hkey, Option.mem_def, hget, Option.some.injEq] at hold
        rw [← hold]
        apply TopUp.vipFor_of_status
        rw [hpending]
        decide
      have hamount := vipAmount_put hold hput
      have hstored : after.shop.users.get? userId = some user := by
        rw [husers]
        exact huser.stored
      by_cases hown : topUp.userId = userId
      · obtain ⟨hnonneg, hstays⟩ := hbelow topUp hget hpending hown
        have hvipFor : 0 ≤ (savedTopUp topUp call).vipFor userId ∧
            (savedTopUp topUp call).vipFor userId ≤ topUpVIPQualifiedAmount topUp := by
          unfold TopUp.vipFor
          split_ifs <;> omega
        refine ⟨user, huser.keep hstored (by omega) ?_⟩
        rcases hstays with hvip | hless
        · left
          simpa [Shop.groupOf, huser.stored] using hvip
        · exact .inr (.inr (by omega))
      · have hzero : (savedTopUp topUp call).vipFor userId = 0 :=
          TopUp.vipFor_of_ne (howner.trans_ne hown)
        exact ⟨user, huser.keep hstored (by omega) (.inr (.inl (by omega)))⟩
    · cases hcall

/-- Every call that meets the condition keeps the group right. -/
lemma vipStep_follows (env : VipEnv) {op : VipOp} (hpos : 0 < userId)
    (huser : ∃ user, FollowsTopUps ledger.bank.shop userId user)
    (hop : op.IsRegular userId ledger) :
    ∃ user, FollowsTopUps (vipStep env ledger op).bank.shop userId user := by
  obtain ⟨user, huser⟩ := huser
  cases op with
  | openTopUp topUp =>
    simp only [vipStep]
    split_ifs with htaken
    · exact ⟨user, huser⟩
    · have hfresh : ledger.bank.shop.topUps.get? topUp.tradeNo = none := by simpa using htaken
      have hamount : (ledger.bank.shop.saveTopUp { topUp with
            id := ledger.bank.shop.nextTopUpId
            status := .pending }).vipAmount userId = ledger.bank.shop.vipAmount userId := by
        rw [vipAmount_put ?_ (Shop.saveTopUp_topUps _ _), TopUp.vipFor_of_status (by simp),
          add_zero]
        simp [hfresh]
      exact ⟨user, huser.keep huser.stored hamount.ge (.inr (.inl hamount))⟩
  | openOrder order =>
    simp only [vipStep]
    split_ifs
    · exact ⟨user, huser⟩
    · exact ⟨user, huser.keep huser.stored le_rfl (.inr (.inl rfl))⟩
  | complete tradeNo call =>
    apply commit_induction fun bank : Bank => ∃ user, FollowsTopUps bank.shop userId user
    · exact ⟨user, huser⟩
    · intro copy bank hok
      cases hcall : call.upgrades with
      | true =>
        obtain ⟨hnew, hkeeps⟩ := (if_pos hcall).mp hop
        cases call with
        | completeSubscriptionOrder times expected method =>
          exact completeOrder_follows env.payment_cents hpos huser hnew hkeeps hok
        | _ => cases hcall
      | false =>
        rw [VipOp.IsRegular, hcall] at hop
        exact recharge_follows hcall huser hop hok
  | completePackage times tradeNo expected method confirmedCover =>
    apply commit_induction fun shop : Shop => ∃ user, FollowsTopUps shop userId user
    · exact ⟨user, huser⟩
    · intro completed shop hok
      exact completePackage_follows env.ldxp_cents hpos huser hop hok
  | redeem key call =>
    apply commit_induction fun bank : Bank => ∃ user, FollowsTopUps bank.shop userId user
    · exact ⟨user, huser⟩
    · intro plan bank hok
      exact redeem_follows env.ldxp_cents hpos huser hop hok
  | direct call session =>
    simp only [vipStep]
    split_ifs with hok
    · exact direct_follows env.ldxp_cents hpos huser hop hok
    · exact ⟨user, huser⟩

/-- A common user starts in the default group without successful top-ups. In every state of a run
whose calls all meet the condition, the user is a VIP exactly if the successful top-ups add up to
the threshold. -/
theorem vip_follows_history (env : VipEnv) (start : LdxpLedger) (userId : Int) (user : User)
    (hpos : 0 < userId) (hstored : start.bank.shop.users.get? userId = some user)
    (hcommon : user.isCommonUser = true) (hgroup : user.group = "default")
    (hnone : start.bank.shop.successfulTopUps userId = []) (ops : List VipOp)
    (hops : Along (vipStep env) (fun ledger op => op.IsRegular userId ledger) start ops) :
    ∀ front, front <+: ops →
      ∃ user', (exec (vipStep env) start front).bank.shop.users.get? userId = some user' ∧
        (user'.group = "vip" ↔ vipUpgradeThresholdMoney ≤
          (exec (vipStep env) start front).bank.shop.vipAmount userId) := by
  have hstart : FollowsTopUps start.bank.shop userId user := by
    refine ⟨hstored, hcommon, .inr hgroup, iff_of_false ?_ ?_⟩
    · rw [hgroup]
      decide
    · rw [Shop.vipAmount, hnone]
      decide
  rintro front ⟨rest, rfl⟩
  obtain ⟨user', huser'⟩ := exec_induction
    (fun ledger => ∃ user, FollowsTopUps ledger.bank.shop userId user)
    (fun ledger op huser hop => vipStep_follows env hpos huser hop) ⟨user, hstart⟩
    (along_append.mp hops).1
  exact ⟨user', huser'.stored, huser'.follows⟩

/-! ## A run, and a recharge without an upgrade -/

/-- Surroundings in which an amount is worth `500` for each unit, and money is counted in cents. -/
def sampleVipEnv : VipEnv where
  payment := { samplePaymentEnv with shop := { sampleShopEnv with vipQualified := reachesVIP } }
  ldxp := { sampleLdxpEnv with shop := { sampleShopEnv with vipQualified := reachesVIP } }
  payment_cents := rfl
  ldxp_cents := rfl

/-- One order of a package, a code for one unit, and no top-ups. -/
def sampleVipLedger : LdxpLedger := ⟨sampleBank, fun _ => ⟨0, 0⟩⟩

/-- The order of a top-up by Waffo. -/
def waffoOrder (tradeNo : String) (amount : Int) : VipOp :=
  .openTopUp ⟨tradeNo, 0, 1, amount, .finite amount 0, "waffo", "waffo", .pending⟩

/-- A recharge below the threshold, a direct top-up that reaches it, and the order of a package. -/
def sampleVipOps : List VipOp :=
  [waffoOrder "W1" 25, .complete "W1" .rechargeWaffo,
    .direct (sampleVerify "S" none) (sampleLdxpSession "S" "1"),
    .completePackage ⟨2000, 2000, 2000⟩ "T1" "ldxp" "" true]

theorem vip_follows_history_sample :
    Along (vipStep sampleVipEnv) (fun ledger op => op.IsRegular 1 ledger) sampleVipLedger
        sampleVipOps ∧
      ∃ user, (exec (vipStep sampleVipEnv) sampleVipLedger
          sampleVipOps).bank.shop.users.get? 1 = some user ∧
        (user.group = "vip" ↔ vipUpgradeThresholdMoney ≤
          (exec (vipStep sampleVipEnv) sampleVipLedger
            sampleVipOps).bank.shop.vipAmount 1) := by
  have hops : Along (vipStep sampleVipEnv) (fun ledger op => op.IsRegular 1 ledger)
      sampleVipLedger sampleVipOps := by
    decide +kernel
  exact ⟨hops, vip_follows_history sampleVipEnv sampleVipLedger 1 ⟨1, "default", true, 2, 0, 0⟩
    (by decide) rfl rfl rfl rfl sampleVipOps hops sampleVipOps List.prefix_rfl⟩

/-- A recharge of the threshold is a success and leaves the user in the default group. -/
theorem recharge_without_upgrade :
    ((exec (vipStep sampleVipEnv) sampleVipLedger
        [waffoOrder "W1" 30, .complete "W1" .rechargeWaffo]).bank.shop.users.get? 1).map
          (·.group) = some "default" ∧
      (exec (vipStep sampleVipEnv) sampleVipLedger
        [waffoOrder "W1" 30, .complete "W1" .rechargeWaffo]).bank.shop.vipAmount 1 =
          vipUpgradeThresholdMoney := by
  constructor
  · decide +kernel
  · decide +kernel

end Yunbay
