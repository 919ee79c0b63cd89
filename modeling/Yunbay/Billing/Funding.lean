import Yunbay.Billing.Calls

/-!
# The wallet or regular subscription of a session

* `FundingAccount.Charged` says what the account has been charged over a base.
* `Funding.Held` is the bookkeeping that lets a session undo its charge: the wallet's own counter,
  or the pre-consume record of the subscription and the extra reservations.
* `OpenLeg` says that an open session can undo its charge. Reserving keeps it, a settlement turns it
  into a charge of the actual quota, and a refund into none.
-/

namespace Yunbay

open Table

open BillingSession

/-! ## The account behind a funding source -/

/-- What a funding source draws on. -/
inductive FundingAccount where
  | wallet
  | subscription (id : Int)
  deriving DecidableEq

def Funding.account : Funding → FundingAccount
  | .wallet _ => .wallet
  | .subscription sub => .subscription sub.subscriptionId

/-- The account has been charged `amount` over `base`, which is the quota of the wallet or the use
of the subscription before the charge. -/
def FundingAccount.Charged (base : Int) (accounts : Accounts) (amount : Int) :
    FundingAccount → Prop
  | .wallet => base - accounts.userQuota = amount
  | .subscription id =>
    ∃ row, accounts.db.subscriptions.get? id = some row ∧ row.amountUsed - base = amount

/-- The balance before the charge: the quota of the wallet, or the use that the pre-consume has
found on the subscription. -/
def Funding.base (before : Accounts) : Funding → Int
  | .wallet _ => before.userQuota
  | .subscription sub => sub.amountUsedAfter - sub.preConsumed

/-- The charge is read off the wallet and the subscriptions. -/
lemma FundingAccount.Charged.congr {account : FundingAccount} {base amount : Int}
    {accounts accounts' : Accounts} (h : account.Charged base accounts amount)
    (hquota : accounts'.userQuota = accounts.userQuota)
    (hsubs : accounts'.db.subscriptions = accounts.db.subscriptions) :
    account.Charged base accounts' amount := by
  cases account with
  | wallet =>
    show base - accounts'.userQuota = amount
    rw [hquota]
    exact h
  | subscription id =>
    obtain ⟨row, hget, hused⟩ := h
    exact ⟨row, hsubs ▸ hget, hused⟩

/-! ## Charges that can be undone -/

/-- A charge of `amount` on a regular subscription, of which `extraReserved` came after the
pre-consume. -/
structure RegularHeld (base : Int) (sub : SubscriptionFunding) (extraReserved : Int) (db : DB)
    (amount : Int) : Prop where
  regular : sub.valuePackageSubscriptionId ≤ 0
  notBlank : isBlank sub.requestId = false
  base_nonneg : 0 ≤ base
  preConsumed_pos : 0 < sub.preConsumed
  amount_eq : sub.preConsumed + extraReserved = amount
  /-- Extra reservations are made on a positive id only. -/
  id_pos : extraReserved = 0 ∨ 0 < sub.subscriptionId
  row : ∃ row plan, db.subscriptions.get? sub.subscriptionId = some row ∧
    row.amountUsed = base + amount ∧ (0 < row.amountTotal → row.amountUsed ≤ row.amountTotal) ∧
    getSubscriptionPlanByIdTx db row.planId = .ok plan ∧ plan.isValuePackage = false
  record : ∃ record, db.preConsumeRecords.get? sub.requestId = some record ∧
    record.userSubscriptionId = sub.subscriptionId ∧ record.preConsumed = sub.preConsumed ∧
    record.status = .consumed

/-- A charge of `amount` that the funding source can undo. -/
def Funding.Held (account : FundingAccount) (base extraReserved : Int) (accounts : Accounts)
    (amount : Int) : Funding → Prop
  | .wallet source =>
    account = .wallet ∧ source.consumed = amount ∧ base - accounts.userQuota = amount
  | .subscription sub =>
    account = .subscription sub.subscriptionId ∧
      RegularHeld base sub extraReserved accounts.db amount

namespace RegularHeld

variable {base extraReserved amount delta : Int} {sub : SubscriptionFunding} {db db' : DB}
  {u : Unit}

section

variable (h : RegularHeld base sub extraReserved db amount)

include h

lemma charged :
    ∃ row, db.subscriptions.get? sub.subscriptionId = some row ∧
      row.amountUsed - base = amount := by
  obtain ⟨row, plan, hget, hused, -⟩ := h.row
  exact ⟨row, hget, by omega⟩

/-- A correction that leaves an extra reservation moves the charge along. -/
lemma postConsume (hdelta : delta ≠ 0) (hextra : 0 ≤ extraReserved + delta)
    (hok : postConsumeUserSubscriptionDelta db sub.subscriptionId delta = .ok (u, db')) :
    RegularHeld base sub (extraReserved + delta) db' (amount + delta) := by
  obtain ⟨hid, row, hget, hroom, rfl⟩ := (postConsumeDelta_eq_ok hdelta).mp hok
  obtain ⟨row', plan, hget', hused, -, hplan, hregular⟩ := h.row
  obtain rfl : row = row' := by
    rw [hget] at hget'
    exact Option.some.inj hget'
  have hrowId : row.id = sub.subscriptionId := key_of_get? hget
  have hbase := h.base_nonneg
  have hpos := h.preConsumed_pos
  have hamount := h.amount_eq
  refine ⟨h.regular, h.notBlank, hbase, hpos, by omega, .inr hid,
    ⟨chargeUsed row delta, plan, ?_, ?_, hroom, hplan, hregular⟩, h.record⟩
  · rw [← hrowId]
    exact get?_put_self _ (chargeUsed row delta)
  · -- the use does not go below zero, so it is not clamped
    show max 0 (row.amountUsed + delta) = _
    omega

lemma postConsume_back (hdelta : 0 < delta) (hextra : delta ≤ extraReserved) :
    ∃ db', postConsumeUserSubscriptionDelta db sub.subscriptionId (-delta) = .ok ((), db') := by
  obtain ⟨row, plan, hget, hused, hroom, -⟩ := h.row
  have hid : 0 < sub.subscriptionId := by
    have hpos := h.id_pos
    omega
  refine ⟨_, (postConsumeDelta_eq_ok (by omega)).mpr
    ⟨hid, row, hget, fun htotal => ?_, rfl⟩⟩
  have hbase := h.base_nonneg
  have hpos := h.preConsumed_pos
  have hamount := h.amount_eq
  have hle := hroom htotal
  show max 0 (row.amountUsed + -delta) ≤ row.amountTotal
  omega

/-- A settlement moves the charge to the actual quota. -/
lemma settle {actual : Int} (hactual : 0 ≤ actual) (hne : actual ≠ amount)
    (hok : postConsumeUserSubscriptionDelta db sub.subscriptionId (actual - amount) =
      .ok (u, db')) :
    ∃ row, db'.subscriptions.get? sub.subscriptionId = some row ∧
      row.amountUsed - base = actual := by
  obtain ⟨-, row, hget, -, rfl⟩ :=
    (postConsumeDelta_eq_ok (sub_ne_zero.mpr hne)).mp hok
  obtain ⟨row', hget', hcharged⟩ := h.charged
  obtain rfl : row = row' := Option.some.inj (hget.symm.trans hget')
  have hrowId : row.id = sub.subscriptionId := key_of_get? hget
  have hbase := h.base_nonneg
  refine ⟨chargeUsed row (actual - amount), ?_, ?_⟩
  · rw [← hrowId]
    exact get?_put_self _ (chargeUsed row (actual - amount))
  · show max 0 (row.amountUsed + (actual - amount)) - base = actual
    omega

lemma refund (hextra : 0 ≤ extraReserved) (now : Int) :
    ∃ db₁ row, refundSubscriptionPreConsume db now sub.requestId = .ok ((), db₁) ∧
      db₁.subscriptions.get? sub.subscriptionId = some row ∧
      row.amountUsed = base + extraReserved ∧ (0 < row.amountTotal → base ≤ row.amountTotal) := by
  obtain ⟨row, plan, hget, hused, hroom, hplan, hregular⟩ := h.row
  obtain ⟨record, hrecord, hid, hpre, hstatus⟩ := h.record
  have hbase := h.base_nonneg
  have hpos := h.preConsumed_pos
  have hamount := h.amount_eq
  rw [← hid] at hget
  obtain ⟨db₁, hrefund, hsubs, -⟩ := refundPreConsume_regular now h.notBlank hrecord
    hstatus (hpre ▸ hpos) hget hplan hregular
  refine ⟨db₁, chargeUsed row (-record.preConsumed), hrefund, ?_, ?_, ?_⟩
  · have hrowId : row.id = record.userSubscriptionId := key_of_get? hget
    rw [hsubs, ← hid, ← hrowId]
    exact get?_put_self _ (chargeUsed row (-record.preConsumed))
  · show max 0 (row.amountUsed + -record.preConsumed) = _
    omega
  · intro htotal
    have hle := hroom htotal
    show base ≤ row.amountTotal
    omega

lemma refundExtra {row : UserSubscription} (hextra : 0 < extraReserved)
    (hget : db'.subscriptions.get? sub.subscriptionId = some row)
    (hused : row.amountUsed = base + extraReserved)
    (hroom : 0 < row.amountTotal → base ≤ row.amountTotal) :
    ∃ db₂ row', postConsumeUserSubscriptionDelta db' sub.subscriptionId (-extraReserved) =
        .ok ((), db₂) ∧
      db₂.subscriptions.get? sub.subscriptionId = some row' ∧ row'.amountUsed = base := by
  have hid : 0 < sub.subscriptionId := by
    have hpos := h.id_pos
    omega
  have hbase := h.base_nonneg
  have hcharge : (chargeUsed row (-extraReserved)).amountUsed = base := by
    show max 0 (row.amountUsed + -extraReserved) = base
    omega
  refine ⟨db'.saveSubscription (chargeUsed row (-extraReserved)), chargeUsed row (-extraReserved),
    ?_, ?_, hcharge⟩
  · exact (postConsumeDelta_eq_ok (by omega)).mpr
      ⟨hid, row, hget, fun htotal => hcharge ▸ hroom htotal, rfl⟩
  · have hrowId : row.id = sub.subscriptionId := key_of_get? hget
    rw [← hrowId]
    exact get?_put_self _ (chargeUsed row (-extraReserved))

end

end RegularHeld

namespace Funding.Held

variable {account : FundingAccount} {base extraReserved amount delta : Int}
  {funding funding' : Funding} {accounts accounts' : Accounts} {fails : Bool}

section

variable (h : funding.Held account base extraReserved accounts amount)

include h

/-- A charge that can be undone has been made. -/
lemma charged : account.Charged base accounts amount := by
  cases funding with
  | wallet source =>
    obtain ⟨rfl, -, hcharged⟩ := h
    exact hcharged
  | subscription sub =>
    obtain ⟨rfl, hheld⟩ := h
    exact hheld.charged

/-- The token is none of the funding source's business. -/
lemma token (remain : Int) :
    funding.Held account base extraReserved { accounts with tokenRemain := remain } amount := by
  cases funding <;> exact h

/-- A reservation that succeeds raises the charge. -/
lemma reserve (hextra : 0 ≤ extraReserved) (hdelta : 0 < delta)
    (hok : reserveFunding fails funding delta accounts = .ok (funding', accounts')) :
    funding'.Held account base (extraReserved + delta) accounts' (amount + delta) := by
  obtain ⟨source, rfl, rfl, rfl⟩ | ⟨sub, db, rfl, rfl, hpost, rfl⟩ := reserveFunding_ok hok
  · obtain ⟨haccount, hconsumed, hcharged⟩ := h
    refine ⟨haccount, by rw [hconsumed], ?_⟩
    dsimp only
    omega
  · obtain ⟨haccount, hheld⟩ := h
    exact ⟨haccount, hheld.postConsume (by omega) (by omega) hpost⟩

end

/-- A reservation can be taken back. -/
lemma rollback (h : funding.Held account base (extraReserved + delta) accounts (amount + delta))
    (hextra : 0 ≤ extraReserved) (hdelta : 0 < delta) :
    (rollbackFundingReserve false funding delta accounts).1.Held account base extraReserved
      (rollbackFundingReserve false funding delta accounts).2 amount := by
  unfold rollbackFundingReserve
  cases funding with
  | wallet source =>
    dsimp only
    rw [Accounts.increaseUserQuota_eq _ hdelta.le]
    obtain ⟨haccount, hconsumed, hcharged⟩ := h
    refine ⟨haccount, ?_, ?_⟩ <;> dsimp only <;> omega
  | subscription sub =>
    obtain ⟨haccount, hheld⟩ := h
    obtain ⟨db, hback⟩ := hheld.postConsume_back hdelta (by omega)
    have htx : (accounts.runTx false fun db =>
        postConsumeUserSubscriptionDelta db sub.subscriptionId (-delta)) =
          .ok ((), { accounts with db }) :=
      Accounts.runTx_eq_ok.mpr ⟨rfl, db, hback, rfl⟩
    dsimp only
    rw [htx]
    have hdown := hheld.postConsume (by omega) (by omega) hback
    rw [add_neg_cancel_right, add_neg_cancel_right] at hdown
    exact ⟨haccount, hdown⟩

end Funding.Held

/-! ## An open session -/

/-- What an open session knows about the charge it has made: the funding source can undo it, and the
counters of the token and of the extra reservations fit. -/
structure OpenLeg (account : FundingAccount) (base : Int) (session : BillingSession)
    (accounts : Accounts) : Prop where
  held : session.funding.Held account base session.extraReserved accounts session.preConsumedQuota
  extraReserved_nonneg : 0 ≤ session.extraReserved
  tokenConsumed : session.tokenConsumed = tokenShare session.info session.preConsumedQuota
  synced : ∀ id, account = .subscription id → session.info.subscriptionId = id

namespace OpenLeg

variable {account : FundingAccount} {base : Int} {session session' : BillingSession}
  {accounts accounts' : Accounts} {faults : Faults} {now : Int} {error : Option ApiError}

section

variable (h : OpenLeg account base session accounts)

include h

/-- The realtime counters are none of the funding source's. -/
lemma setRealtime (actual reserved : Int) :
    OpenLeg account base (session.setRealtime actual reserved) accounts :=
  ⟨h.held, h.extraReserved_nonneg, h.tokenConsumed, h.synced⟩

lemma valuePackage?_eq_none : session.valuePackage? = none := by
  have hheld := h.held
  unfold valuePackage?
  cases hfunding : session.funding with
  | wallet source => rfl
  | subscription sub =>
    rw [hfunding] at hheld
    exact if_neg (not_lt.mpr hheld.2.regular)

section

variable (hrollback : faults.rollback = false)

include hrollback

lemma reserveMore {delta : Int} (hdelta : 0 < delta)
    (hmore : session.reserveMore faults delta accounts = (error, session', accounts')) :
    OpenLeg account base session' accounts' := by
  obtain ⟨-, rfl, rfl⟩ | ⟨funding, accounts₁, hfunding, hrest⟩ := reserveMore_cases hmore
  · exact h
  have hraised := h.held.reserve h.extraReserved_nonneg hdelta hfunding
  obtain ⟨-, rfl, rfl⟩ | ⟨reserved, rfl, htoken, rfl⟩ := hrest
  · rw [hrollback]
    exact ⟨hraised.rollback h.extraReserved_nonneg hdelta, h.extraReserved_nonneg, h.tokenConsumed,
      h.synced⟩
  · obtain ⟨rfl, rfl⟩ := reserveToken_ok hdelta htoken
    refine ⟨hraised.token _, ?_, ?_, ?_⟩
    · show 0 ≤ session.extraReserved + delta
      have hextra := h.extraReserved_nonneg
      omega
    · rw [raised_tokenConsumed, h.tokenConsumed]
      show _ = tokenShare session.info (session.preConsumedQuota + delta)
      unfold tokenShare
      split_ifs
      · rfl
      · rfl
    · intro id haccount
      cases funding with
      | wallet source => cases hraised.1.symm.trans haccount
      | subscription sub => cases hraised.1.symm.trans haccount; rfl

lemma reserve {targetQuota : Int}
    (hreserve : session.reserve faults targetQuota accounts = (error, session', accounts')) :
    OpenLeg account base session' accounts' := by
  obtain ⟨-, rfl, rfl⟩ | ⟨-, -, htarget, hmore⟩ := reserve_cases hreserve
  · exact h
  · exact h.reserveMore hrollback (by omega) hmore

lemma reserveRealtime {deltaQuota : Int}
    (hreserve : session.reserveRealtime faults now deltaQuota accounts =
      (error, session', accounts')) :
    OpenLeg account base session' accounts' := by
  obtain ⟨-, rfl, actual, reserved, rfl⟩ | ⟨-, htarget, session₁, actual, reserved, hraise, rfl⟩ :=
    reserveRealtime_cases hreserve
  · exact h.setRealtime actual reserved
  · obtain ⟨-, hmore⟩ | ⟨package, hpackage, -⟩ := raiseTo_cases hraise
    · exact (h.reserveMore hrollback (by omega) hmore).setRealtime actual reserved
    · rw [h.valuePackage?_eq_none] at hpackage
      cases hpackage

end

lemma settleFunding {fails : Bool} {actualQuota : Int}
    (hunsettled : session.fundingSettled = false) (hactual : 0 ≤ actualQuota)
    (hfunding : actualQuota = session.preConsumedQuota ∧ accounts' = accounts ∨
      actualQuota ≠ session.preConsumedQuota ∧
        session.settleFunding fails now actualQuota accounts = .ok accounts') :
    account.Charged base accounts' actualQuota := by
  obtain ⟨heq, rfl⟩ | ⟨hne, hsettle⟩ := hfunding
  · rw [heq]
    exact h.held.charged
  obtain ⟨package, -, -, hpackage, -⟩ | ⟨-, hsettle⟩ := settleFunding_ok hunsettled hsettle
  · rw [h.valuePackage?_eq_none] at hpackage
    cases hpackage
  have hheld := h.held
  cases hkind : session.funding with
  | wallet source =>
    rw [hkind] at hheld hsettle
    obtain ⟨rfl, -, hcharged⟩ := hheld
    rw [settle_wallet_ok hsettle]
    show base - (accounts.userQuota - (actualQuota - session.preConsumedQuota)) = actualQuota
    omega
  | subscription sub =>
    rw [hkind] at hheld hsettle
    obtain ⟨rfl, hheld⟩ := hheld
    obtain ⟨hzero, -⟩ | ⟨-, db, hpost, rfl⟩ := settle_subscription_ok hsettle
    · exact absurd (sub_eq_zero.mp hzero) hne
    · exact hheld.settle hactual hne hpost

lemma refundFunding (hnonneg : 0 ≤ session.preConsumedQuota) (now : Int) :
    account.Charged base (session.refundFunding now
      ⟨session.tokenConsumed, session.extraReserved, session.info.subscriptionId⟩ accounts) 0 := by
  have hheld := h.held
  have hpackage := h.valuePackage?_eq_none
  unfold BillingSession.refundFunding Funding.refund
  cases hkind : session.funding with
  | wallet source =>
    rw [hkind] at hheld
    obtain ⟨rfl, hconsumed, hcharged⟩ := hheld
    show base - Accounts.userQuota _ = 0
    dsimp only
    split_ifs
    · omega
    · dsimp only
      omega
  | subscription sub =>
    rw [hkind] at hheld
    obtain ⟨rfl, hheld⟩ := hheld
    obtain ⟨db₁, row, hrefund, hget, hused, hroom⟩ :=
      hheld.refund h.extraReserved_nonneg now
    have hpos := hheld.preConsumed_pos
    have hextra := h.extraReserved_nonneg
    rw [h.synced _ rfl]
    simp only [if_neg (not_le.mpr hpos), hrefund, Except.commit_ok, hpackage, and_true]
    split_ifs with hjob
    · obtain ⟨db₂, row', hpost, hget', hused'⟩ := hheld.refundExtra hjob.1 hget hused hroom
      rw [hpost]
      exact ⟨row', hget', by omega⟩
    · -- without a positive id nothing extra has been reserved
      have hzero : session.extraReserved = 0 := by
        have hid := hheld.id_pos
        omega
      exact ⟨row, hget, by omega⟩

/-- The asynchronous part of a refund leaves nothing charged. -/
lemma runRefund (hnonneg : 0 ≤ session.preConsumedQuota) (now : Int) :
    account.Charged base (session.runRefund now
      ⟨session.tokenConsumed, session.extraReserved, session.info.subscriptionId⟩ accounts) 0 := by
  have hcharged := h.refundFunding hnonneg now
  unfold BillingSession.runRefund
  dsimp only
  split_ifs
  · exact hcharged.congr rfl rfl
  · exact hcharged

lemma preConsumedQuota_eq_zero (hopen : session.Open)
    (hunsettled : session.fundingSettled = false) (hnonneg : 0 ≤ session.preConsumedQuota)
    (hneeds : session.needsRefund = false)
    (hplayground : ¬(session.info.isPlayground = true ∧ session.funding.account = .wallet ∧
      0 < session.preConsumedQuota)) : session.preConsumedQuota = 0 := by
  have hheld := h.held
  have htoken := h.tokenConsumed
  unfold needsRefund at hneeds
  simp only [hopen.1, hopen.2, hunsettled, Bool.or_self, Bool.false_eq_true, if_false] at hneeds
  split_ifs at hneeds with hconsumed
  unfold tokenShare at htoken
  cases hkind : session.funding with
  | wallet source =>
    rw [hkind] at hplayground
    cases hinfo : session.info.isPlayground with
    | true =>
      have hzero : ¬0 < session.preConsumedQuota := fun hpos => hplayground ⟨hinfo, rfl, hpos⟩
      omega
    | false =>
      simp only [hinfo, Bool.false_eq_true, if_false] at htoken
      omega
  | subscription sub =>
    rw [hkind] at hheld hneeds
    exact absurd hheld.2.preConsumed_pos (of_decide_eq_false hneeds)

end

end OpenLeg

end Yunbay
