import Yunbay.Svip.Backfill
import Yunbay.Payment.Booking

/-!
# The accumulation of an SVIP follows the history

Two counters of a user are moved by four functions that compute the cents in different ways, by an
administrator, who moves one of them, and by the backfill.

The invariant is `CountersSound`: the watermark is at most the history, and the valid cents are the
watermark and the grants. Every function but the backfill moves both counters by the same cents, and
by no more than the history (`Accrued`). The backfill makes up what the watermark is short of.
-/

namespace Yunbay

open Except Run Table

variable {history cents userId : Int} {granted : Nat} {user : User} {state : SvipState}
  {bank : Bank} {topUp : TopUp}

/-! ## Runs -/

/-- The tables, the receipt of the first backfill and the grants. -/
structure SvipState where
  ledger : LdxpLedger
  /-- The receipt of the reconciliation is there. -/
  initialized : Bool
  /-- What the administrators have granted, in cents. -/
  granted : Int → Nat

namespace SvipState

def shop (state : SvipState) : Shop := state.ledger.bank.shop

/-- The state with another bank. -/
@[simps]
def withBank (state : SvipState) (bank : Bank) : SvipState :=
  { state with ledger := { state.ledger with bank } }

@[simp]
lemma withBank_shop (state : SvipState) (bank : Bank) : (state.withBank bank).shop = bank.shop :=
  rfl

end SvipState

/-- A call, each of which is one transaction. -/
inductive SvipOp where
  /-- `directTopUpLdxpSessionTx`. -/
  | direct (call : LdxpVerifyCall) (session : LdxpTopupSession)
  /-- `redeemWithTx`. -/
  | redeem (key : String) (call : RedeemCall)
  /-- `CompleteValuePackageOrder` for LDXP. -/
  | completeOrder (times : SaleTimes) (tradeNo actualPaymentMethod : String) (confirmedCover : Bool)
  /-- `IncreaseUserQuotaAndValidTopupCents`. -/
  | increase (userId quota cents : Int)
  /-- A top-up that an older version of the program writes, without the counters. -/
  | insertTopUp (topUp : TopUp)
  /-- `backfillUserValidTopupCents`. -/
  | backfill

/-- The effect of a call. One that fails is rolled back. -/
def svipStep (env : LdxpEnv) (state : SvipState) : SvipOp → SvipState
  | .direct call session =>
    let phase := directTopUpLdxpSessionTx env call session state.ledger
    if phase.error = none then { state with ledger := phase.ledger } else state
  | .redeem key call =>
    state.withBank (commit state.ledger.bank
      (redeemWithTx env.shop state.ledger.bank key call))
  | .completeOrder times tradeNo method confirmedCover =>
    state.withBank (state.ledger.bank.withShop (commit state.shop
      (completeValuePackageOrder env.shop state.shop times tradeNo "ldxp" method confirmedCover)))
  | .increase userId quota cents =>
    match increaseUserQuotaAndValidTopupCents state.ledger.bank userId quota cents with
    | .error _ => state
    | .ok bank =>
      { state.withBank bank with
        granted := Function.update state.granted userId
          (state.granted userId + cents.toNat) }
  | .insertTopUp topUp =>
    if (state.shop.topUps.get? topUp.tradeNo).isSome then state
    else
      state.withBank (state.ledger.bank.withShop (state.shop.saveTopUp
        { topUp with id := state.shop.nextTopUpId, status := .success }))
  | .backfill =>
    match backfillUserValidTopupCents state.initialized state.shop with
    | .error _ => state
    | .ok shop =>
      { state.withBank (state.ledger.bank.withShop shop) with initialized := true }

/-- The totals of a backfill fit into 64 bits. -/
def SvipState.Fits (state : SvipState) : Prop :=
  (∀ topUp ∈ state.shop.topUps.rows, state.shop.historyCents topUp.userId ≤ maxInt64) ∧
    ∀ user ∈ state.shop.users.rows,
      state.shop.historyCents user.id + state.granted user.id ≤ maxInt64

instance (state : SvipState) : Decidable state.Fits := inferInstanceAs (Decidable (_ ∧ _))

/-- No top-up without an amount counts already under the trade number of a pending order. -/
def Shop.Uncounted (shop : Shop) (tradeNo : String) : Prop :=
  ∀ order ∈ shop.orders.get? tradeNo, order.status = .pending →
    ∀ topUp ∈ shop.topUps.get? tradeNo, topUp.isCounted = true → 0 < topUp.amount

instance (shop : Shop) (tradeNo : String) : Decidable (shop.Uncounted tradeNo) :=
  inferInstanceAs (Decidable (∀ order ∈ shop.orders.get? tradeNo, order.status = .pending →
    ∀ topUp ∈ shop.topUps.get? tradeNo, topUp.isCounted = true → 0 < topUp.amount))

/-- The condition on a call: a code was paid for, a pending order is not completed over a top-up
that counts already, and the totals of a backfill fit. -/
def SvipOp.Admissible (state : SvipState) : SvipOp → Prop
  | .redeem key _ => state.ledger.bank.IsPaidCode key
  | .completeOrder _ tradeNo _ _ => state.shop.Uncounted tradeNo
  | .backfill => state.Fits
  | _ => True

instance (state : SvipState) : (op : SvipOp) → Decidable (op.Admissible state)
  | .redeem key _ => inferInstanceAs (Decidable (state.ledger.bank.IsPaidCode key))
  | .completeOrder _ tradeNo _ _ => inferInstanceAs (Decidable (state.shop.Uncounted tradeNo))
  | .backfill => inferInstanceAs (Decidable state.Fits)
  | .direct _ _ => isTrue trivial
  | .increase _ _ _ => isTrue trivial
  | .insertTopUp _ => isTrue trivial

/-! ## The invariant -/

/-- The watermark is at most the history, and the valid cents are the watermark and the grants. -/
structure CountersSound (history : Int) (granted : Nat) (user : User) : Prop where
  nonneg : 0 ≤ user.validTopupHistoryCents
  watermark : user.validTopupHistoryCents ≤ history
  cents : user.validTopupCents = user.validTopupHistoryCents + granted

/-- The watermark is the history, and the valid cents are the history and the grants. -/
structure CountersSettled (history : Int) (granted : Nat) (user : User) : Prop where
  watermark : user.validTopupHistoryCents = history
  cents : user.validTopupCents = history + granted

/-- What holds of the history, the grants and the row of every user. -/
def SvipState.ForUsers (state : SvipState) (P : Int → Nat → User → Prop) : Prop :=
  ∀ userId user, state.shop.users.get? userId = some user →
    P (state.shop.historyCents userId) (state.granted userId) user

lemma CountersSettled.sound (hhistory : 0 ≤ history) (h : CountersSettled history granted user) :
    CountersSound history granted user where
  nonneg := h.watermark ▸ hhistory
  watermark := h.watermark.le
  cents := h.watermark ▸ h.cents

lemma SvipState.ForUsers.sound (h : state.ForUsers CountersSettled) :
    state.ForUsers CountersSound :=
  fun userId user huser => (h userId user huser).sound (state.shop.historyCents_nonneg userId)

/-- Both counters of every user have moved by the same cents, and by no more than the history. -/
def Accrued (shop shop' : Shop) : Prop :=
  ∀ userId user', shop'.users.get? userId = some user' →
    ∃ user cents, shop.users.get? userId = some user ∧ 0 ≤ cents ∧
      user'.validTopupCents = user.validTopupCents + cents ∧
      user'.validTopupHistoryCents = user.validTopupHistoryCents + cents ∧
      shop.historyCents userId + cents ≤ shop'.historyCents userId

lemma Accrued.sound (h : Accrued state.shop bank.shop) (hsound : state.ForUsers CountersSound) :
    (state.withBank bank).ForUsers CountersSound := by
  intro userId user' huser'
  obtain ⟨user, cents, huser, hcents, hvalid, hwatermark, hhistory⟩ := h userId user' huser'
  obtain ⟨hnonneg, hle, hsum⟩ := hsound userId user huser
  rw [SvipState.withBank_shop, SvipState.withBank_granted]
  exact ⟨by omega, by omega, by omega⟩

lemma Accrued.refl (shop : Shop) : Accrued shop shop :=
  fun _ user huser => ⟨user, 0, huser, le_rfl, by omega, by omega, by omega⟩

/-! ## The functions accrue -/

variable {env : ShopEnv} {shop shop' : Shop}

lemma historyCents_put
    (hold : ∀ old, shop.topUps.get? topUp.tradeNo = some old → old.isCounted = false)
    (hput : shop'.topUps = shop.topUps.put topUp) (userId : Int) :
    shop'.historyCents userId = shop.historyCents userId + topUp.centsFor userId := by
  have hzero : (shop.topUps.get? topUp.tradeNo).elim 0 (·.centsFor userId) = 0 := by
    cases hget : shop.topUps.get? topUp.tradeNo with
    | none => rfl
    | some old => simp [TopUp.centsFor, hold old hget]
  rw [Shop.historyCents, hput, sumBy_put, hzero, sub_zero, Shop.historyCents]

lemma User.credited_cents (user : User) (hcents : 0 ≤ cents) :
    ∃ credit, 0 ≤ credit ∧ credit ≤ cents ∧
      (user.credited cents).validTopupCents = user.validTopupCents + credit ∧
      (user.credited cents).validTopupHistoryCents = user.validTopupHistoryCents + credit := by
  unfold User.credited
  split_ifs
  · exact ⟨0, le_rfl, hcents, by omega, by omega⟩
  · exact ⟨cents, hcents, le_rfl, rfl, rfl⟩

lemma TopUpBooked.accrued (h : TopUpBooked env shop topUp cents shop')
    (hcounted : topUp.isCounted = true) (hnonneg : 0 ≤ cents) (hcents : cents ≤ topUp.validCents)
    (hold : ∀ old, shop.topUps.get? topUp.tradeNo = some old → old.isCounted = false) :
    Accrued shop shop' := by
  intro userId user' huser'
  have hhistory := historyCents_put hold h.topUps userId
  rw [h.users, Option.map_eq_some_iff] at huser'
  obtain ⟨user, huser, rfl⟩ := huser'
  by_cases hown : userId = topUp.userId
  · have hfor : topUp.centsFor userId = topUp.validCents := if_pos ⟨hcounted, hown.symm⟩
    obtain ⟨credit, hpos, hle, hvalid, hwatermark⟩ := user.credited_cents hnonneg
    refine ⟨user, credit, huser, hpos, ?_, ?_, by omega⟩
    · rw [if_pos hown, User.promoted_validTopupCents, hvalid]
    · rw [if_pos hown, User.promoted_historyCents, hwatermark]
  · have hfor := topUp.centsFor_nonneg userId
    refine ⟨user, 0, huser, le_rfl, ?_, ?_, by omega⟩
    · rw [if_neg hown, add_zero]
    · rw [if_neg hown, add_zero]

lemma Reviewed.accrued (h : Reviewed env shop userId shop') : Accrued shop shop' := by
  intro other user' huser'
  have hhistory : shop'.historyCents other = shop.historyCents other := by
    rw [Shop.historyCents, h.topUps, Shop.historyCents]
  rw [h.users, Option.map_eq_some_iff] at huser'
  obtain ⟨user, huser, rfl⟩ := huser'
  refine ⟨user, 0, huser, le_rfl, ?_, ?_, by omega⟩
  · split_ifs <;> simp
  · split_ifs <;> simp

lemma NewTopUp.not_counted {provider : String} (h : NewTopUp shop userId provider topUp) :
    ∀ old, shop.topUps.get? topUp.tradeNo = some old → old.isCounted = false := by
  intro old hold
  rw [h.fresh] at hold
  cases hold

lemma amountToValidTopupCents_le (topUp : TopUp) :
    amountToValidTopupCents topUp.amount ≤ topUp.validCents := by
  unfold TopUp.validCents validTopupCentsForTopUp
  split_ifs with hamount
  · exact le_rfl
  · rw [amountToValidTopupCents, if_pos (.inl (not_lt.mp hamount))]
    exact moneyToCents_nonneg topUp.money

lemma direct_accrued {env : LdxpEnv} {call : LdxpVerifyCall} {session : LdxpTopupSession}
    {ledger : LdxpLedger} (h : (directTopUpLdxpSessionTx env call session ledger).error = none) :
    Accrued ledger.bank.shop
      (directTopUpLdxpSessionTx env call session ledger).ledger.bank.shop := by
  obtain hreviewed | ⟨hnew, hbooked⟩ := directTopUpLdxpSessionTx_booked h
  · exact hreviewed.accrued
  · exact hbooked.accrued rfl (amountToCents_nonneg session.amount)
      (amountToValidTopupCents_le (directTopUp session ledger.bank.shop)) hnew.not_counted

lemma redeem_accrued {bank' : Bank} {key : String} {call : RedeemCall} {plan : RedeemPlan}
    (hpaid : bank.IsPaidCode key) (h : redeemWithTx env bank key call = .ok (plan, bank')) :
    Accrued bank.shop bank'.shop := by
  obtain ⟨topUp, hnew, -, hbooked⟩ := redeemWithTx_booked hpaid h
  have hcounted : topUp.isCounted = true := by
    simp [TopUp.isCounted, hnew.status, hnew.provider]
  exact hbooked.accrued hcounted topUp.validCents_nonneg le_rfl hnew.not_counted

lemma completeOrder_accrued {times : SaleTimes} {tradeNo method : String} {confirmedCover : Bool}
    {completed : UserSubscription}
    (hfree : shop.Uncounted tradeNo)
    (h : completeValuePackageOrder env shop times tradeNo "ldxp" method confirmedCover =
      .ok (completed, shop')) : Accrued shop shop' := by
  obtain rfl | ⟨order, topUp, hget, hpending, hprovider, htopUp, hover, hbooked⟩ :=
    completeValuePackageOrder_booked h
  · exact .refl _
  · have hkey : order.tradeNo = tradeNo := key_of_get? hget
    have hldxp : order.paymentProvider = "ldxp" := hprovider.resolve_left (by decide)
    have hcounted : topUp.isCounted = true := by
      simp [TopUp.isCounted, htopUp.status, htopUp.provider, hldxp]
    have hcents : moneyToValidTopupCents order.money = topUp.validCents := by
      simp [TopUp.validCents, validTopupCentsForTopUp, htopUp.amount, htopUp.money]
    refine hbooked.accrued hcounted (moneyToCents_nonneg order.money) hcents.le ?_
    intro old hold
    rw [htopUp.tradeNo] at hold
    -- A row that counts would have an amount, and then the order would not be completed.
    by_contra hcounted
    rw [Bool.not_eq_false] at hcounted
    exact (hover old hold).2 (hfree order hget hpending old (hkey ▸ hold) hcounted)

lemma insertTopUp_accrued (hfresh : shop.topUps.get? topUp.tradeNo = none) :
    Accrued shop (shop.saveTopUp topUp) := by
  intro userId user huser
  have hhistory : (shop.saveTopUp topUp).historyCents userId =
      shop.historyCents userId + topUp.centsFor userId := by
    refine historyCents_put (fun old hold => ?_) rfl userId
    rw [hfresh] at hold
    cases hold
  have hfor := topUp.centsFor_nonneg userId
  exact ⟨user, 0, huser, le_rfl, by omega, by omega, by omega⟩

/-! ## The other calls -/

lemma increase_sound {quota : Int} (hsound : state.ForUsers CountersSound)
    (h : increaseUserQuotaAndValidTopupCents state.ledger.bank userId quota cents = .ok bank) :
    SvipState.ForUsers
      { state.withBank bank with
        granted := Function.update state.granted userId (state.granted userId + cents.toNat) }
      CountersSound := by
  obtain ⟨_, h⟩ := of_bind h
  obtain ⟨_, h⟩ := of_bind h
  obtain ⟨hcents, h⟩ := of_check h
  split at h
  · cases h
  next user hget =>
    obtain rfl := pure_eq_ok.mp h
    have hid : user.id = userId := key_of_get? hget
    intro other user' huser'
    have huser' : (state.shop.users.put
        { user with validTopupCents := user.validTopupCents + cents }).get? other =
          some user' := huser'
    change CountersSound (state.shop.historyCents other) (Function.update state.granted userId
      (state.granted userId + cents.toNat) other) user'
    rw [get?_put] at huser'
    split_ifs at huser' with hother
    · obtain rfl := Option.some.inj huser'
      obtain rfl : userId = other := hid.symm.trans hother
      obtain ⟨hnonneg, hwatermark, hsum⟩ := hsound userId user hget
      refine ⟨hnonneg, hwatermark, ?_⟩
      rw [Function.update_self, Nat.cast_add, Int.toNat_of_nonneg hcents]
      simp only
      omega
    · rw [Function.update_of_ne fun heq => hother (hid.trans heq.symm)]
      exact hsound other user' huser'

lemma CountersSound.repaired (h : CountersSound history granted user) :
    CountersSettled history granted (user.repaired history) := by
  obtain ⟨hnonneg, hwatermark, hsum⟩ := h
  refine ⟨?_, ?_⟩
  · rw [User.repaired_validTopupHistoryCents]
    omega
  · rw [User.repaired_validTopupCents]
    omega

/-- Without a history there is nothing to repair. -/
lemma CountersSound.backfilled (h : CountersSound history granted user) :
    CountersSettled history granted (user.backfilled history) := by
  unfold User.backfilled
  split_ifs with hzero
  · obtain ⟨hnonneg, hwatermark, hsum⟩ := h
    exact ⟨by omega, by omega⟩
  · exact h.repaired

lemma exists_topUp_of_historyCents_pos (h : 0 < shop.historyCents userId) :
    ∃ topUp ∈ shop.topUps.rows, topUp.userId = userId := by
  have hmem := mem_backfillUserIds h
  rw [backfillUserIds, List.mem_insertionSort, List.mem_dedup, List.mem_map] at hmem
  obtain ⟨topUp, htopUp, huser⟩ := hmem
  exact ⟨topUp, List.mem_of_mem_filter (List.mem_of_mem_filter htopUp), huser⟩

lemma backfill_settled (env : LdxpEnv) (hreceipt : state.initialized = true)
    (hsound : state.ForUsers CountersSound) (hfits : state.Fits) :
    (svipStep env state .backfill).ForUsers CountersSettled := by
  obtain ⟨shop, hshop⟩ : ∃ shop, backfillUserValidTopupCents true state.shop = .ok shop := by
    apply backfill_ok
    · intro userId
      by_cases hpos : 0 < state.shop.historyCents userId
      · obtain ⟨topUp, htopUp, rfl⟩ := exists_topUp_of_historyCents_pos hpos
        exact hfits.1 topUp htopUp
      · exact (not_lt.mp hpos).trans (by decide)
    · intro userId user huser
      have hid : user.id = userId := key_of_get? huser
      rw [(hsound userId user huser).repaired.cents, ← hid]
      exact hfits.2 user (mem_of_get? huser)
  obtain ⟨users, rfl, hget⟩ := backfill_users hshop
  simp only [svipStep, hreceipt, hshop]
  intro userId user' huser'
  obtain ⟨user, huser, rfl⟩ := Option.map_eq_some_iff.mp ((hget userId).symm.trans huser')
  exact (hsound userId user huser).backfilled

/-- Every call keeps the invariant and the receipt. -/
lemma svipStep_sound (env : LdxpEnv) {op : SvipOp}
    (h : state.initialized = true ∧ state.ForUsers CountersSound) (hop : op.Admissible state) :
    (svipStep env state op).initialized = true ∧
      (svipStep env state op).ForUsers CountersSound := by
  obtain ⟨hreceipt, hsound⟩ := h
  cases op with
  | direct call session =>
    simp only [svipStep]
    split_ifs with hok
    · exact ⟨hreceipt, (direct_accrued hok).sound hsound⟩
    · exact ⟨hreceipt, hsound⟩
  | redeem key call =>
    refine ⟨hreceipt, Accrued.sound ?_ hsound⟩
    apply commit_induction fun bank : Bank => Accrued state.shop bank.shop
    · exact .refl _
    · intro plan bank hok
      exact redeem_accrued hop hok
  | completeOrder times tradeNo method confirmedCover =>
    refine ⟨hreceipt, Accrued.sound ?_ hsound⟩
    apply commit_induction fun shop : Shop => Accrued state.shop shop
    · exact .refl _
    · intro completed shop hok
      exact completeOrder_accrued hop hok
  | increase userId quota cents =>
    simp only [svipStep]
    split
    · exact ⟨hreceipt, hsound⟩
    next bank hok => exact ⟨hreceipt, increase_sound hsound hok⟩
  | insertTopUp topUp =>
    simp only [svipStep]
    split_ifs with htaken
    · exact ⟨hreceipt, hsound⟩
    · exact ⟨hreceipt, (insertTopUp_accrued (by simpa using htaken)).sound hsound⟩
  | backfill =>
    refine ⟨?_, (backfill_settled env hreceipt hsound hop).sound⟩
    simp only [svipStep]
    split
    · exact hreceipt
    · rfl

/-- The watermark and the cents are at most the history, and the history and the grants. -/
structure CountersNotAbove (history : Int) (granted : Nat) (user : User) : Prop where
  watermark : user.validTopupHistoryCents ≤ history
  cents : user.validTopupCents ≤ history + granted

/-- Start with every user settled. In every run in which no pending order is completed over a top-up
without an amount that counts already, the cents never exceed the history and the grants, and after
every backfill they are equal. -/
theorem accumulation_follows_history (env : LdxpEnv) (start : SvipState) (ops : List SvipOp)
    (hreceipt : start.initialized = true) (hsettled : start.ForUsers CountersSettled)
    (hops : Along (svipStep env) (fun state op => op.Admissible state) start ops) :
    ∀ front, front <+: ops →
      (exec (svipStep env) start front).ForUsers CountersNotAbove ∧
      ∀ before, front = before ++ [.backfill] →
        (exec (svipStep env) start front).ForUsers CountersSettled := by
  have hsound : ∀ front, Along (svipStep env) (fun state op => op.Admissible state) start
      front → (exec (svipStep env) start front).initialized = true ∧
        (exec (svipStep env) start front).ForUsers CountersSound := fun front hfront =>
    exec_induction (fun state => state.initialized = true ∧ state.ForUsers CountersSound)
      (fun state op => svipStep_sound env) ⟨hreceipt, hsettled.sound⟩ hfront
  rintro front ⟨rest, rfl⟩
  have hfront := (along_append.mp hops).1
  refine ⟨fun userId user huser => ?_, ?_⟩
  · obtain ⟨hnonneg, hwatermark, hsum⟩ := (hsound front hfront).2 userId user huser
    exact ⟨hwatermark, by omega⟩
  · rintro before rfl
    obtain ⟨hbefore, hlast⟩ := along_append.mp hfront
    obtain ⟨hinitialized, hinv⟩ := hsound before hbefore
    rw [exec_append]
    exact backfill_settled env hinitialized hinv hlast.1

/-! ## A run, and an order that is counted twice -/

lemma SvipState.forUsers_of_rows {P : Int → Nat → User → Prop}
    (h : ∀ user ∈ state.shop.users.rows,
      P (state.shop.historyCents user.id) (state.granted user.id) user) : state.ForUsers P := by
  intro userId user huser
  obtain rfl : user.id = userId := key_of_get? huser
  exact h user (mem_of_get? huser)

instance (history : Int) (granted : Nat) (user : User) :
    Decidable (CountersSettled history granted user) :=
  decidable_of_iff
    (user.validTopupHistoryCents = history ∧ user.validTopupCents = history + granted)
    ⟨fun h => ⟨h.1, h.2⟩, fun h => ⟨h.1, h.2⟩⟩

/-- The shop with one order, and a code that was paid for. -/
def sampleSvipState : SvipState := ⟨⟨sampleBank, fun _ => ⟨0, 0⟩⟩, true, fun _ => 0⟩

/-- A direct top-up, a top-up of an older version, a grant, a code, an order and a backfill. -/
def sampleSvipOps : List SvipOp :=
  [.direct (sampleVerify "S" none) (sampleLdxpSession "S" "1"),
    .insertTopUp ⟨"old", 0, 1, 5, .finite 5 0, "ldxp", "ldxp", .pending⟩,
    .increase 1 1000 300, .redeem "K" (sampleRedeem 2),
    .completeOrder ⟨2000, 2000, 2000⟩ "T1" "" true, .backfill]

theorem accumulation_follows_history_sample :
    (exec (svipStep sampleLdxpEnv) sampleSvipState sampleSvipOps).ForUsers CountersSettled := by
  have hreceipt : sampleSvipState.initialized = true := rfl
  have hsettled : sampleSvipState.ForUsers CountersSettled :=
    SvipState.forUsers_of_rows (by decide +kernel)
  have hops : Along (svipStep sampleLdxpEnv) (fun state op => op.Admissible state)
      sampleSvipState sampleSvipOps := by
    decide +kernel
  exact (accumulation_follows_history sampleLdxpEnv sampleSvipState sampleSvipOps hreceipt hsettled
    hops sampleSvipOps List.prefix_rfl).2 (sampleSvipOps.take 5) rfl

/-- The order of user `1` is pending, but its top-up is a success and has been accounted for. -/
def overbookedState : SvipState :=
  sampleSvipState.withBank (sampleBank.withShop
    { sampleShop with
      users := sampleShop.users.put ⟨1, "default", true, 2, 990, 990⟩
      topUps := Table.empty.put ⟨"T1", 1, 1, 0, .finite 99 1, "ldxp", "ldxp", .success⟩
      lastTopUpId := 1 })

/-- The order is completed over its top-up, and its cents are added once more. -/
theorem completed_twice_exceeds :
    overbookedState.initialized = true ∧ overbookedState.ForUsers CountersSettled ∧
      ∃ user, (svipStep sampleLdxpEnv overbookedState
          (.completeOrder ⟨2000, 2000, 2000⟩ "T1" "" true)).shop.users.get? 1 = some user ∧
        (svipStep sampleLdxpEnv overbookedState
            (.completeOrder ⟨2000, 2000, 2000⟩ "T1" "" true)).shop.historyCents 1 +
          overbookedState.granted 1 < user.validTopupCents := by
  refine ⟨rfl, SvipState.forUsers_of_rows (by decide +kernel),
    ⟨1, "default", true, 2, 1980, 1980⟩, ?_, ?_⟩
  · decide +kernel
  · decide +kernel

end Yunbay
