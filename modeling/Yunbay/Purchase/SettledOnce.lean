import Yunbay.Data.OneShot
import Yunbay.Purchase.Lifecycle

/-!
# An order takes effect once

The payment provider may report a payment more than once, and the job that closes unpaid orders may
come in between. `OrderEffects` compares the tables before and after a call: subscriptions, the
reset-card journal, the cents of each user and the commissions.

`order_settled_once`: in every run of the shop, the calls for a pending order have the effects of
one settlement if the order ends up settled, and none otherwise.
-/

namespace Yunbay

open Except Run Table

variable {before after : Shop} {completed : UserSubscription} {times : SaleTimes} {op : ShopOp}

/-! ## Effects of a call -/

/-- What a call has done. -/
@[ext]
structure OrderEffects where
  /-- The active subscriptions that the call has created or extended. -/
  granted : Nat
  /-- The lines that the call has added to the reset-card journal. -/
  giftRows : Nat
  /-- The cents that the call has added to the valid top-ups of each user. -/
  cents : Int → Int
  /-- The commissions that the call has created. -/
  commissions : Nat

/-- The active subscriptions that are not in the tables before. -/
def grantedSubscriptions (before after : Shop) : List UserSubscription :=
  after.db.subscriptions.rows.filter fun sub =>
    sub.status = .active ∧ before.db.subscriptions.get? sub.id ≠ some sub

/-- The difference of the tables before and after a call. -/
def effectsOf (before after : Shop) : OrderEffects where
  granted := (grantedSubscriptions before after).length
  giftRows := after.db.resetCountLedger.length - before.db.resetCountLedger.length
  cents userId := after.centsOf userId - before.centsOf userId
  commissions := after.commissions.rows.length - before.commissions.rows.length

/-- No effect. -/
def noEffects : OrderEffects := ⟨0, 0, fun _ => 0, 0⟩

/-- The effects of a settled order: one subscription, one line in the journal if there is a gift,
the cents of its money for its user, and a commission if one is due. -/
def settlement (env : ShopEnv) (shop : Shop) (order : SubscriptionOrder) : OrderEffects where
  granted := 1
  giftRows := if clampSubscriptionPlanGiftResetCount order.giftResetCount ≠ 0 then 1 else 0
  cents userId := if userId = order.userId then moneyToValidTopupCents order.money else 0
  commissions := if commissionDue env shop order then 1 else 0

/-- Without a change of the subscription rows nothing is granted. -/
lemma grantedSubscriptions_nil (h : after.db.subscriptions = before.db.subscriptions) :
    grantedSubscriptions before after = [] := by
  unfold grantedSubscriptions
  rw [List.filter_eq_nil_iff]
  intro sub hsub
  rw [h] at hsub
  simp [get?_of_mem hsub]

/-- A call that leaves the four tables alone has no effect. -/
lemma effectsOf_eq_noEffects (hdb : after.db = before.db) (husers : after.users = before.users)
    (hcommissions : after.commissions = before.commissions) :
    effectsOf before after = noEffects := by
  unfold effectsOf noEffects Shop.centsOf
  rw [grantedSubscriptions_nil (by rw [hdb]), hdb, husers, hcommissions]
  simp

lemma granted_singleton (hmem : completed ∈ after.db.subscriptions.rows)
    (hactive : completed.status = .active)
    (hchanged : before.db.subscriptions.get? completed.id ≠ some completed)
    (honly : ∀ sub ∈ after.db.subscriptions.rows, sub.status = .active →
      before.db.subscriptions.get? sub.id ≠ some sub → sub = completed) :
    grantedSubscriptions before after = [completed] := by
  have hnodup : (grantedSubscriptions before after).Nodup :=
    (after.db.subscriptions.nodup.of_map _).filter _
  rw [← List.perm_singleton, List.perm_ext_iff_of_nodup hnodup (List.nodup_singleton completed)]
  intro sub
  rw [grantedSubscriptions, List.mem_filter, decide_eq_true_iff, List.mem_singleton]
  constructor
  · rintro ⟨hsub, hsubActive, hsubChanged⟩
    exact honly sub hsub hsubActive hsubChanged
  · rintro rfl
    exact ⟨hmem, hactive, hchanged⟩

lemma PackageSold.granted {env : ShopEnv} {shop shop' : Shop} {userId : Int}
    {plan : SubscriptionPlan} (h : PackageSold env shop times userId plan completed shop') :
    grantedSubscriptions shop shop' = [completed] := by
  -- rows that were there before are not granted
  have hold {sub : UserSubscription} (hmem : sub ∈ shop.db.subscriptions.rows)
      (hne : shop.db.subscriptions.get? sub.id ≠ some sub) : sub = completed :=
    absurd (get?_of_mem hmem) hne
  cases h with
  | created endUnix hend hnone hnew hsubs hlast =>
    apply granted_singleton
    · rw [hsubs, mem_put]
      exact .inl rfl
    · rw [hnew, newValuePackage_status]
    · rw [hnew, newValuePackage_id, shop.get?_nextSubscriptionId]
      simp
    · intro sub hsub _ hchanged
      rw [hsubs, mem_put] at hsub
      exact hsub.elim id fun hsub => hold hsub.1 hchanged
  | extended endUnix existing currentPlan db' hend hrunning hplan hextend hsubs hlast =>
    obtain ⟨stored, hget, -, hid, -, -, hactive, hlater, hdb⟩ :=
      extendPackage_row hextend
    have hput : shop'.db.subscriptions = shop.db.subscriptions.put completed := by
      rw [hsubs, hdb]
    have hstored : stored.id = existing.id := key_of_get? hget
    apply granted_singleton
    · rw [hput, mem_put]
      exact .inl rfl
    · exact hactive
    · -- the row ends later, or is in a later epoch
      rw [hid, hstored, hget]
      intro hsame
      rw [Option.some.inj hsame] at hlater
      omega
    · intro sub hsub _ hchanged
      rw [hput, mem_put] at hsub
      exact hsub.elim id fun hsub => hold hsub.1 hchanged
  | upgraded endUnix current currentPlan hend hrunning hplan hnew hsubs hlast =>
    apply granted_singleton
    · rw [hsubs, mem_put]
      exact .inl rfl
    · rw [hnew, newValuePackage_status]
    · rw [hnew, newValuePackage_id, shop.get?_nextSubscriptionId]
      simp
    · intro sub hsub hactive hchanged
      rw [hsubs, mem_put] at hsub
      rcases hsub with rfl | ⟨hsub, -⟩
      · rfl
      · rcases mem_put.mp hsub with rfl | ⟨hsub, -⟩
        · -- the covered package is not active
          cases hactive
        · exact hold hsub hchanged

/-! ## Calls for an order -/

section Calls

variable {env : ShopEnv} {shop shop' : Shop} {order : SubscriptionOrder}

lemma settleOrder_effects {actualPaymentMethod : String} {confirmedCover : Bool}
    (h : settleOrder env shop times order actualPaymentMethod confirmedCover =
      .ok (completed, shop')) :
    effectsOf shop shop' = settlement env shop order ∧
      shop'.orders = shop.orders.put
        { order.withPayment completed.id actualPaymentMethod with status := .success } := by
  obtain ⟨plan, sold, -, -, hsold, hframe, hpaid⟩ := settleOrder_ok h
  have hpaid := recordPayment_ok (by exact hframe.user_pos) hpaid
  refine ⟨?_, by rw [hpaid.orders, hframe.orders]⟩
  obtain ⟨lines, hlines, hlength⟩ := hframe.journal
  have hgranted : grantedSubscriptions shop shop' = [completed] := by
    unfold grantedSubscriptions
    rw [hpaid.db]
    exact hsold.granted
  -- the payment finds the commission that was due before the sale
  have hdue : commissionDue env sold (order.withPayment completed.id actualPaymentMethod) =
      commissionDue env shop order := by
    refine commissionFor_isSome_congr (fun userId => by rw [hframe.users]) hframe.commissions ?_
      rfl rfl rfl
    unfold subscriptionTopUp Shop.nextTopUpId
    rw [hframe.topUps, hframe.lastTopUpId]
    rfl
  have hsame (userId : Int) : sold.centsOf userId = shop.centsOf userId := by
    unfold Shop.centsOf
    rw [hframe.users]
  ext1
  · show (grantedSubscriptions shop shop').length = 1
    rw [hgranted]
    rfl
  · show shop'.db.resetCountLedger.length - shop.db.resetCountLedger.length = _
    rw [hpaid.db, hlines, List.length_append, Nat.add_sub_cancel_left, hlength]
    rfl
  · funext userId
    show shop'.centsOf userId - shop.centsOf userId = _
    rw [hpaid.cents, hsame, add_sub_cancel_left]
    rfl
  · show shop'.commissions.rows.length - shop.commissions.rows.length = _
    rw [hpaid.commissions, hframe.commissions, Nat.add_sub_cancel_left, hdue]
    rfl

/-- The order a call is about. -/
def ShopOp.tradeNo? : ShopOp → Option String
  | .completeOrder _ tradeNo .. | .expireOrder tradeNo _ => some tradeNo
  | _ => none

/-- The call is about the order. -/
def ShopOp.isFor (tradeNo : String) (op : ShopOp) : Bool := op.tradeNo? = some tradeNo

lemma shopStep_isFor (env : ShopEnv) (hfor : op.isFor order.tradeNo = true)
    (hget : shop.orders.get? order.tradeNo = some order) :
    shopStep env shop op = shop ∨
      order.status = .pending ∧
        (shopStep env shop op = shop.saveOrder { order with status := .expired } ∨
          effectsOf shop (shopStep env shop op) = settlement env shop order ∧
            ∃ settled, settled.tradeNo = order.tradeNo ∧ settled.status = .success ∧
              (shopStep env shop op).orders = shop.orders.put settled) := by
  have hfor : op.tradeNo? = some order.tradeNo := of_decide_eq_true hfor
  cases op with
  | completeOrder times tradeNo expected method confirmed =>
    obtain rfl : tradeNo = order.tradeNo := Option.some.inj hfor
    unfold shopStep
    rw [shopCall, commit_dropResult]
    cases hrun : completeValuePackageOrder env shop times order.tradeNo expected method
      confirmed with
    | error err => exact .inl rfl
    | ok result =>
      obtain ⟨completed, shop'⟩ := result
      obtain ⟨stored, hstored, hcases⟩ := completeValuePackageOrder_cases hrun
      obtain rfl : order = stored := Option.some.inj (hget.symm.trans hstored)
      rcases hcases with ⟨-, rfl⟩ | ⟨hpending, hsettle⟩
      · exact .inl rfl
      · obtain ⟨heffects, horders⟩ := settleOrder_effects hsettle
        exact .inr ⟨hpending, .inr ⟨heffects,
          { order.withPayment completed.id method with status := .success }, rfl, rfl,
          horders⟩⟩
  | expireOrder tradeNo expected =>
    obtain rfl : tradeNo = order.tradeNo := Option.some.inj hfor
    unfold shopStep
    rw [shopCall]
    cases hrun : expireSubscriptionOrder shop order.tradeNo expected with
    | error err => exact .inl rfl
    | ok result =>
      obtain ⟨⟨⟩, shop'⟩ := result
      obtain ⟨stored, hstored, hcases⟩ := expireOrder_cases hrun
      obtain rfl : order = stored := Option.some.inj (hget.symm.trans hstored)
      rcases hcases with ⟨-, rfl⟩ | ⟨hpending, rfl⟩
      · exact .inl rfl
      · exact .inr ⟨hpending, .inl rfl⟩
  | _ => cases hfor

/-- A call that is not about an order leaves it alone. -/
lemma shopStep_orders {tradeNo : String} (hfor : op.isFor tradeNo = false) :
    (shopStep env shop op).orders.get? tradeNo = shop.orders.get? tradeNo := by
  have hother : op.tradeNo? ≠ some tradeNo := of_decide_eq_false hfor
  -- a transaction that leaves the whole table alone
  have hsame {α : Type} {tx : Except ShopError (α × Shop)}
      (htx : ∀ a shop', tx = .ok (a, shop') → shop'.orders = shop.orders) :
      (commit shop tx).orders.get? tradeNo = shop.orders.get? tradeNo :=
    commit_induction (fun state : Shop =>
      state.orders.get? tradeNo = shop.orders.get? tradeNo) rfl
      fun a shop' h => by rw [htx a shop' h]
  unfold shopStep
  cases op with
  | completeOrder times other expected method confirmed =>
    have hne : other ≠ tradeNo := fun heq => hother (congrArg some heq)
    rw [shopCall, commit_dropResult]
    refine commit_induction (fun state : Shop =>
      state.orders.get? tradeNo = shop.orders.get? tradeNo) rfl ?_
    intro completed shop' hrun
    obtain ⟨stored, hstored, ⟨-, rfl⟩ | ⟨-, hsettle⟩⟩ := completeValuePackageOrder_cases hrun
    · rfl
    · have hkey : stored.tradeNo = other := key_of_get? hstored
      rw [(settleOrder_effects hsettle).2, get?_put_of_ne]
      exact hkey.trans_ne hne
  | expireOrder other expected =>
    have hne : other ≠ tradeNo := fun heq => hother (congrArg some heq)
    refine commit_induction (fun state : Shop =>
      state.orders.get? tradeNo = shop.orders.get? tradeNo) rfl ?_
    intro _ shop' hrun
    obtain ⟨stored, hstored, ⟨-, rfl⟩ | ⟨-, rfl⟩⟩ := expireOrder_cases hrun
    · rfl
    · have hkey : stored.tradeNo = other := key_of_get? hstored
      rw [Shop.saveOrder_orders, get?_put_of_ne]
      exact hkey.trans_ne hne
  | redeemPackage times userId planId =>
    rw [shopCall, commit_dropResult]
    refine hsame fun completed shop' hrun => ?_
    obtain ⟨plan, gift, -, -, -, hframe⟩ := createPackage_ok hrun
    exact hframe.orders
  | createSubscription nowUnix timestamp userId planId =>
    rw [shopCall, commit_dropResult]
    refine hsame fun sub shop' hrun => ?_
    obtain ⟨plan, -, -, -, -, rfl⟩ := createSubscriptionTx_ok hrun
    rw [Shop.createSubscription_orders]
    obtain ⟨users, heq⟩ := shop.upgradeUser_eq userId plan
    rw [heq]
  | expireDue now limit =>
    refine expireDue_induction
      (fun state : Shop => state.orders.get? tradeNo = shop.orders.get? tradeNo) ?_ limit rfl
    intro state userId _ hstate
    obtain ⟨users, heq⟩ := expireDueUser_users now state userId
    rw [heq]
    exact hstate
  | invalidate now id =>
    refine hsame fun _ shop' hrun => ?_
    obtain ⟨sub, -, hdowngrade⟩ := adminInvalidate_ok hrun
    obtain ⟨users, rfl⟩ := downgradeGroup_users hdowngrade
    rfl
  | delete now id =>
    refine hsame fun _ shop' hrun => ?_
    obtain ⟨sub, downgraded, -, hdowngrade, rfl⟩ := adminDelete_ok hrun
    obtain ⟨users, rfl⟩ := downgradeGroup_users hdowngrade
    rfl
  | updatePlan plan terms => rfl

end Calls

/-! ## Whole runs -/

/-- The calls for an order are those of an object that takes effect once. -/
lemma order_oneShot (env : ShopEnv) (order : SubscriptionOrder) :
    Run.OneShot (shopStep env) (ShopOp.isFor order.tradeNo)
      (fun shop => shop.orders.get? order.tradeNo = some order)
      (fun shop => ∃ closed, shop.orders.get? order.tradeNo = some closed ∧
        closed.status = .expired)
      (fun shop => ∃ settled, shop.orders.get? order.tradeNo = some settled ∧
        settled.status = .success)
      (fun before after => effectsOf before after = noEffects)
      (fun before after => effectsOf before after = settlement env before order) := by
  -- an order that is not pending stays as it is
  have hfinal {shop : Shop} {stored : SubscriptionOrder} (op : ShopOp)
      (hget : shop.orders.get? order.tradeNo = some stored) (hstatus : stored.status ≠ .pending) :
      (shopStep env shop op).orders.get? order.tradeNo = some stored ∧
        (op.isFor order.tradeNo = true → effectsOf shop (shopStep env shop op) = noEffects) := by
    cases hfor : op.isFor order.tradeNo with
    | false => exact ⟨(shopStep_orders hfor).trans hget, nofun⟩
    | true =>
      have hkey : stored.tradeNo = order.tradeNo := key_of_get? hget
      rcases shopStep_isFor env (hkey ▸ hfor) (hkey ▸ hget) with hsame | ⟨hnot, -⟩
      · rw [hsame]
        exact ⟨hget, fun _ => effectsOf_eq_noEffects rfl rfl rfl⟩
      · exact absurd hnot hstatus
  refine ⟨?_, ?_, ?_, ?_⟩
  · intro shop op hget hfor
    exact (shopStep_orders hfor).trans hget
  · intro shop op hget hfor
    rcases shopStep_isFor env hfor hget with hsame |
      ⟨-, hexpired | ⟨heffects, settled, hkey, hstatus, horders⟩⟩
    · rw [hsame]
      exact .inl ⟨.inl hget, effectsOf_eq_noEffects rfl rfl rfl⟩
    · rw [hexpired]
      refine .inl ⟨.inr ⟨{ order with status := .expired }, ?_, rfl⟩,
        effectsOf_eq_noEffects rfl rfl rfl⟩
      exact get?_put_self shop.orders { order with status := .expired }
    · refine .inr ⟨⟨settled, ?_, hstatus⟩, heffects⟩
      rw [horders, ← hkey]
      exact get?_put_self shop.orders settled
  · rintro shop op ⟨closed, hget, hstatus⟩
    obtain ⟨hkept, hidle⟩ := hfinal op hget (by rw [hstatus]; decide)
    exact ⟨⟨closed, hkept, hstatus⟩, hidle⟩
  · rintro shop op ⟨settled, hget, hstatus⟩
    obtain ⟨hkept, hidle⟩ := hfinal op hget (by rw [hstatus]; decide)
    exact ⟨⟨settled, hkept, hstatus⟩, hidle⟩

/-- Along any run of the shop: if a pending order ends up settled then one of its calls has had the
effects of the settlement and the others none, and otherwise none has had any. A call that fails
leaves all tables as they are. -/
theorem order_settled_once (env : ShopEnv) (shop : Shop) (order : SubscriptionOrder)
    (hget : shop.orders.get? order.tradeNo = some order) (hpending : order.status = .pending)
    (ops : List ShopOp) :
    (∃ last, (exec (shopStep env) shop ops).orders.get? order.tradeNo = some last ∧
      (last.status = .success ∧
          (∃ earlier later before after,
            Run.calls (shopStep env) (ShopOp.isFor order.tradeNo) shop ops =
              earlier ++ (before, after) :: later ∧
            effectsOf before after = settlement env before order ∧
            ∀ call ∈ earlier ++ later, effectsOf call.1 call.2 = noEffects) ∨
        (last.status = .pending ∨ last.status = .expired) ∧
          ∀ call ∈ Run.calls (shopStep env) (ShopOp.isFor order.tradeNo) shop ops,
            effectsOf call.1 call.2 = noEffects)) ∧
      ∀ op err, shopCall env (exec (shopStep env) shop ops) op = .error err →
        shopStep env (exec (shopStep env) shop ops) op = exec (shopStep env) shop ops := by
  constructor
  · rcases (order_oneShot env order).exec hget ops with ⟨hfresh | hclosed, hidle⟩ | ⟨hdone, heffect⟩
    · exact ⟨order, hfresh, .inr ⟨.inl hpending, hidle⟩⟩
    · obtain ⟨closed, hclosed, hstatus⟩ := hclosed
      exact ⟨closed, hclosed, .inr ⟨.inr hstatus, hidle⟩⟩
    · obtain ⟨settled, hsettled, hstatus⟩ := hdone
      exact ⟨settled, hsettled, .inl ⟨hstatus, heffect⟩⟩
  · intro op err herr
    rw [shopStep, herr]
    rfl

/-- A payment that is reported with the wrong provider, twice with the right one, and an attempt to
expire the order in between. -/
def reportedTwice : List ShopOp :=
  [.completeOrder ⟨2000, 2000, 2000⟩ "T1" "stripe" "" true,
    .completeOrder ⟨2001, 2001, 2001⟩ "T1" "ldxp" "" true, .expireOrder "T1" "",
    .completeOrder ⟨2002, 2002, 2002⟩ "T1" "" "" false]

theorem reportedTwice_settled :
    sampleOrder.status = .pending ∧
    (∃ last, (exec (shopStep sampleShopEnv) sampleShop reportedTwice).orders.get? "T1" =
        some last ∧ last.status = .success ∧
      ∃ earlier later before after,
        Run.calls (shopStep sampleShopEnv) (ShopOp.isFor "T1") sampleShop reportedTwice =
          earlier ++ (before, after) :: later ∧
        effectsOf before after = settlement sampleShopEnv before sampleOrder ∧
        ∀ call ∈ earlier ++ later, effectsOf call.1 call.2 = noEffects) ∧
      ∀ op err, shopCall sampleShopEnv
          (exec (shopStep sampleShopEnv) sampleShop reportedTwice) op = .error err →
        shopStep sampleShopEnv (exec (shopStep sampleShopEnv) sampleShop reportedTwice) op =
          exec (shopStep sampleShopEnv) sampleShop reportedTwice := by
  obtain ⟨⟨last, hlast, hcase⟩, hfail⟩ :=
    order_settled_once sampleShopEnv sampleShop sampleOrder rfl rfl reportedTwice
  have hsuccess : last.status = .success := by
    obtain rfl := Option.some.inj (hlast.symm.trans rfl)
    rfl
  exact ⟨rfl, ⟨last, hlast, hcase.resolve_right fun h => by simp [hsuccess] at h⟩, hfail⟩

end Yunbay
