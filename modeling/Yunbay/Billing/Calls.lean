import Yunbay.Billing.Session

/-!
# The calls on a billing session

What each call on a session, and each part of it, can do. Everything about sessions is derived from
these lemmas.
-/

namespace Yunbay

open Except

variable {targetQuota deltaQuota delta target actualQuota : Int} {package : SubscriptionFunding}

/-! ## Reserving more -/

namespace BillingSession

variable {faults : Faults} {session session' : BillingSession} {accounts accounts' : Accounts}
  {now : Int} {error : Option ApiError}

/-- The session can still be changed. -/
def Open (session : BillingSession) : Prop := session.settled = false ∧ session.refunded = false

instance (session : BillingSession) : Decidable session.Open := by
  unfold Open
  infer_instance

lemma reserve_cases
    (h : session.reserve faults targetQuota accounts = (error, session', accounts')) :
    (error = none ∧ session' = session ∧ accounts' = accounts) ∨
      session.Open ∧ session.trusted = false ∧ session.preConsumedQuota < targetQuota ∧
        session.reserveMore faults (targetQuota - session.preConsumedQuota) accounts =
          (error, session', accounts') := by
  unfold reserve at h
  split_ifs at h with hidle
  · cases h
    exact .inl ⟨rfl, rfl, rfl⟩
  · simp only [Bool.or_eq_true, decide_eq_true_eq, not_or, not_le, Bool.not_eq_true] at hidle
    obtain ⟨⟨⟨hsettled, hrefunded⟩, htrusted⟩, htarget⟩ := hidle
    exact .inr ⟨⟨hsettled, hrefunded⟩, htrusted, htarget, h⟩

lemma reserveRealtime_cases
    (h : session.reserveRealtime faults now deltaQuota accounts = (error, session', accounts')) :
    (error = none ∧ accounts' = accounts ∧
        ∃ actual reserved, session' = session.setRealtime actual reserved) ∨
      session.Open ∧
        session.preConsumedQuota < session.info.realtimeActualQuota + deltaQuota ∧
        ∃ session₁ actual reserved,
          session.raiseTo faults now (session.info.realtimeActualQuota + deltaQuota) accounts =
            (error, session₁, accounts') ∧
          session' = session₁.setRealtime actual reserved := by
  unfold reserveRealtime at h
  dsimp only at h
  split_ifs at h with hidle hreserved hcovered
  · cases h
    exact .inl ⟨rfl, rfl, _, _, rfl⟩
  · cases h
    exact .inl ⟨rfl, rfl, _, _, rfl⟩
  · cases h
    exact .inl ⟨rfl, rfl, _, _, rfl⟩
  · simp only [not_or, Bool.not_eq_true] at hidle
    have hraise : session.preConsumedQuota < session.info.realtimeActualQuota + deltaQuota := by
      omega
    rw [max_eq_left hraise.le] at h
    refine .inr ⟨hidle.2, hraise, ?_⟩
    split at h
    · rename_i heq
      cases h
      exact ⟨_, _, _, heq, rfl⟩
    · rename_i heq
      cases h
      exact ⟨_, _, _, heq, rfl⟩

/-- What `reserveMore` can do: fail on the funding source, fail on the token and take the funding
source back, or raise the counters. -/
lemma reserveMore_cases
    (h : session.reserveMore faults delta accounts = (error, session', accounts')) :
    (error.isSome ∧ session' = session ∧ accounts' = accounts) ∨
      ∃ funding accounts₁,
        reserveFunding faults.funding session.funding delta accounts = .ok (funding, accounts₁) ∧
        ((error.isSome ∧
            session' = { session with
              funding := (rollbackFundingReserve faults.rollback funding delta accounts₁).1 } ∧
            accounts' = (rollbackFundingReserve faults.rollback funding delta accounts₁).2) ∨
          ∃ reserved, error = none ∧
            reserveToken faults.token session.info delta accounts₁ = .ok (reserved, accounts') ∧
            session' = session.raised funding delta reserved) := by
  unfold reserveMore at h
  split at h
  · cases h
    exact .inl ⟨rfl, rfl, rfl⟩
  · rename_i funding accounts₁ hfunding
    refine .inr ⟨funding, accounts₁, hfunding, ?_⟩
    split at h
    · cases h
      exact .inl ⟨rfl, rfl, rfl⟩
    · rename_i reserved accounts₂ htoken
      cases h
      exact .inr ⟨reserved, rfl, htoken, rfl⟩

lemma reservePackageRealtime_cases
    (h : session.reservePackageRealtime faults now package target accounts =
      (error, session', accounts')) :
    (error.isSome ∧ session' = session ∧ accounts' = accounts) ∨
      ∃ reserved accounts₁,
        reserveToken faults.token session.info (target - session.preConsumedQuota) accounts =
          .ok (reserved, accounts₁) ∧
        ((error.isSome ∧ session' = session ∧
            accounts' = if reserved then accounts₁.giveBackToken faults.rollback
              (target - session.preConsumedQuota) else accounts₁) ∨
          ∃ result, error = none ∧
            (accounts₁.runTx faults.funding fun db =>
              reserveValuePackageUsageToTarget db now package.requestId package.userId
                package.valuePackageSubscriptionId target) = .ok (result, accounts') ∧
            session' = session.raised (.subscription
              { package with
                subscriptionId := result.userSubscriptionId
                amountTotal := result.amountTotal }) (target - session.preConsumedQuota)
              reserved) := by
  unfold reservePackageRealtime at h
  dsimp only at h
  split at h
  · cases h
    exact .inl ⟨rfl, rfl, rfl⟩
  · rename_i reserved accounts₁ htoken
    refine .inr ⟨reserved, accounts₁, htoken, ?_⟩
    split at h
    · cases h
      exact .inl ⟨rfl, rfl, rfl⟩
    · rename_i result accounts₂ htx
      cases h
      exact .inr ⟨result, rfl, htx, rfl⟩

/-- What reserving keeps of a session: everything but the funding source, the counters, which only
grow, and the realtime fields. A session that is not open keeps all but the last. -/
structure Grown (session session' : BillingSession) : Prop where
  settled : session'.settled = session.settled
  refunded : session'.refunded = session.refunded
  fundingSettled : session'.fundingSettled = session.fundingSettled
  isPlayground : session'.info.isPlayground = session.info.isPlayground
  preConsumedQuota : session.preConsumedQuota ≤ session'.preConsumedQuota
  frozen : ¬session.Open → ∃ actual reserved, session' = session.setRealtime actual reserved

lemma Grown.refl (session : BillingSession) : Grown session session :=
  ⟨rfl, rfl, rfl, rfl, le_rfl, fun _ => ⟨_, _, rfl⟩⟩

lemma Grown.of_reserveMore (hopen : session.Open) (hdelta : 0 < delta)
    (h : session.reserveMore faults delta accounts = (error, session', accounts')) :
    Grown session session' := by
  obtain ⟨-, rfl, -⟩ | ⟨funding, accounts₁, -, ⟨-, rfl, -⟩ | ⟨reserved, -, -, rfl⟩⟩ :=
    reserveMore_cases h
  · exact Grown.refl session'
  · exact ⟨rfl, rfl, rfl, rfl, le_rfl, absurd hopen⟩
  · exact ⟨rfl, rfl, rfl, rfl, Int.le_add_of_nonneg_right hdelta.le, absurd hopen⟩

lemma Grown.of_reservePackageRealtime (hopen : session.Open)
    (htarget : session.preConsumedQuota < target)
    (h : session.reservePackageRealtime faults now package target accounts =
      (error, session', accounts')) : Grown session session' := by
  obtain ⟨-, rfl, -⟩ | ⟨reserved, accounts₁, -, ⟨-, rfl, -⟩ | ⟨result, -, -, rfl⟩⟩ :=
    reservePackageRealtime_cases h
  · exact Grown.refl session'
  · exact Grown.refl session'
  · exact ⟨rfl, rfl, rfl, rfl, Int.le_add_of_nonneg_right (sub_nonneg.mpr htarget.le),
      absurd hopen⟩

lemma raiseTo_cases
    (h : session.raiseTo faults now target accounts = (error, session', accounts')) :
    (session.valuePackage? = none ∧ session.reserveMore faults
        (target - session.preConsumedQuota) accounts = (error, session', accounts')) ∨
      ∃ package, session.valuePackage? = some package ∧
        session.reservePackageRealtime faults now package target accounts =
          (error, session', accounts') := by
  unfold raiseTo at h
  cases hpackage : session.valuePackage? with
  | none =>
    rw [hpackage] at h
    exact .inl ⟨rfl, h⟩
  | some package =>
    rw [hpackage] at h
    exact .inr ⟨package, rfl, h⟩

lemma Grown.of_reserve
    (h : session.reserve faults targetQuota accounts = (error, session', accounts')) :
    Grown session session' := by
  obtain ⟨-, rfl, -⟩ | ⟨hopen, -, htarget, h⟩ := reserve_cases h
  · exact Grown.refl session'
  · exact Grown.of_reserveMore hopen (by omega) h

lemma Grown.of_reserveRealtime
    (h : session.reserveRealtime faults now deltaQuota accounts = (error, session', accounts')) :
    Grown session session' := by
  obtain ⟨-, -, actual, reserved, rfl⟩ | ⟨hopen, htarget, session₁, actual, reserved, hraise,
    rfl⟩ := reserveRealtime_cases h
  · exact ⟨rfl, rfl, rfl, rfl, le_rfl, fun _ => ⟨actual, reserved, rfl⟩⟩
  · have hgrown : Grown session session₁ := by
      rcases raiseTo_cases hraise with ⟨-, hmore⟩ | ⟨package, -, hpackage⟩
      · exact Grown.of_reserveMore hopen (by omega) hmore
      · exact Grown.of_reservePackageRealtime hopen htarget hpackage
    exact ⟨hgrown.settled, hgrown.refunded, hgrown.fundingSettled, hgrown.isPlayground,
      hgrown.preConsumedQuota, absurd hopen⟩

lemma settleToken_zero (fails : Bool) (info : RelayInfo) (accounts : Accounts) :
    (settleToken fails info 0 accounts).2 = accounts := by
  unfold settleToken Accounts.increaseTokenQuota Accounts.guarded
  cases fails <;> cases info.isPlayground <;> simp [check, bind, Except.bind, pure,
    Except.pure]

/-- A settlement does nothing, as the session is settled or the funding source fails, or settles. At
the pre-consumed quota no account but the usage record is touched. -/
lemma settle_cases {error : Option AccountError}
    (h : session.settle faults now actualQuota accounts = (error, session', accounts')) :
    (session' = session ∧ accounts' = accounts) ∨
      session.settled = false ∧ ∃ settledFunding accounts₁,
        session' = { session with fundingSettled := settledFunding, settled := true } ∧
        accounts' = (recordValuePackageUsage faults.usage now session.info actualQuota
          (settleToken faults.token session.info (actualQuota - session.preConsumedQuota)
            accounts₁).2).2 ∧
        (actualQuota = session.preConsumedQuota ∧ accounts₁ = accounts ∨
          actualQuota ≠ session.preConsumedQuota ∧
            session.settleFunding faults.funding now actualQuota accounts = .ok accounts₁) := by
  unfold settle at h
  dsimp only at h
  split_ifs at h with hsettled hdelta
  · cases h
    exact .inl ⟨rfl, rfl⟩
  · cases h
    refine .inr ⟨by simpa using hsettled, session.fundingSettled, accounts, rfl, ?_, ?_⟩
    · rw [hdelta, settleToken_zero]
    · exact .inl ⟨by omega, rfl⟩
  · split at h
    · cases h
      exact .inl ⟨rfl, rfl⟩
    · rename_i accounts₁ hfunding
      cases h
      exact .inr ⟨by simpa using hsettled, true, accounts₁, rfl, rfl,
        .inr ⟨by omega, hfunding⟩⟩

/-- What the synchronous part of a refund can do: nothing, or mark the session and start a job. -/
lemma refund_cases {job : Option RefundJob} (h : session.refund = (job, session')) :
    (job = none ∧ session' = session ∧ (session.Open → session.needsRefund = false)) ∨
      session.Open ∧ session.needsRefund = true ∧
        job = some ⟨session.tokenConsumed, session.extraReserved, session.info.subscriptionId⟩ ∧
        session' = { session with refunded := true } := by
  unfold refund at h
  split_ifs at h with hidle
  · cases h
    refine .inl ⟨rfl, rfl, fun hopen => ?_⟩
    simpa [hopen.1, hopen.2] using hidle
  · cases h
    simp only [Bool.or_eq_true, Bool.not_eq_eq_eq_not, Bool.not_true, not_or,
      Bool.not_eq_true, Bool.not_eq_false] at hidle
    exact .inr ⟨hidle.1, hidle.2, rfl, rfl⟩

/-! ## The parts of a call -/

variable {fails : Bool} {info : RelayInfo} {funding funding' : Funding}

lemma reserveFunding_ok
    (h : reserveFunding fails funding delta accounts = .ok (funding', accounts')) :
    (∃ source, funding = .wallet source ∧
        funding' = .wallet { source with consumed := source.consumed + delta } ∧
        accounts' = { accounts with userQuota := accounts.userQuota - delta }) ∨
      ∃ sub db, funding = .subscription sub ∧ funding' = .subscription sub ∧
        postConsumeUserSubscriptionDelta accounts.db sub.subscriptionId delta = .ok ((), db) ∧
        accounts' = { accounts with db } := by
  unfold reserveFunding at h
  cases funding with
  | wallet source =>
    dsimp only at h
    split at h
    · cases h
    · rename_i after hok
      cases h
      exact .inl ⟨source, rfl, rfl, Accounts.decreaseQuota_ok hok⟩
  | subscription sub =>
    dsimp only at h
    split at h
    · cases h
    · rename_i after hok
      cases h
      obtain ⟨-, db, hpost, rfl⟩ := Accounts.runTx_eq_ok.mp hok
      exact .inr ⟨sub, db, rfl, rfl, hpost, rfl⟩

/-- What the token of a request is charged for `amount`: nothing in the playground. -/
def tokenShare (info : RelayInfo) (amount : Int) : Int := if info.isPlayground then 0 else amount

lemma raised_tokenConsumed (funding : Funding) (delta : Int) :
    (session.raised funding delta (!session.info.isPlayground)).tokenConsumed =
      session.tokenConsumed + tokenShare session.info delta := by
  unfold raised syncRelayInfo tokenShare
  cases session.info.isPlayground <;> simp

lemma reserveToken_ok {reserved : Bool} (hdelta : 0 < delta)
    (h : reserveToken fails info delta accounts = .ok (reserved, accounts')) :
    reserved = !info.isPlayground ∧
      accounts' =
        { accounts with tokenRemain := accounts.tokenRemain - tokenShare info delta } := by
  unfold reserveToken at h
  unfold tokenShare
  split_ifs at h with hidle
  · cases h
    have hplayground : info.isPlayground = true := by
      rcases hidle with hle | hplayground
      · omega
      · exact hplayground
    simp [hplayground]
  · have hplayground : info.isPlayground = false := by
      simpa using fun htrue => hidle (.inr htrue)
    split at h
    · cases h
    · rename_i after hok
      cases h
      rw [preConsumeTokenQuota_ok hok]
      simp [hplayground]

lemma settleToken_eq (info : RelayInfo) (delta : Int) (accounts : Accounts) :
    (settleToken false info delta accounts).2 =
      { accounts with tokenRemain := accounts.tokenRemain - tokenShare info delta } := by
  unfold settleToken tokenShare
  by_cases hplayground : info.isPlayground = true
  · simp [hplayground]
  · rw [if_neg hplayground, if_neg hplayground]
    by_cases hdelta : 0 < delta
    · have hok : accounts.decreaseTokenQuota false delta =
          .ok { accounts with tokenRemain := accounts.tokenRemain - delta } :=
        Accounts.guarded_eq_ok.mpr ⟨hdelta.le, rfl, rfl⟩
      rw [if_pos hdelta, hok]
    · have hok : accounts.increaseTokenQuota false (-delta) =
          .ok { accounts with tokenRemain := accounts.tokenRemain + -delta } :=
        Accounts.guarded_eq_ok.mpr ⟨by omega, rfl, rfl⟩
      rw [if_neg hdelta, hok]
      rfl

/-- Settling the token moves nothing else. -/
lemma settleToken_frame (fails : Bool) (info : RelayInfo) (delta : Int) (accounts : Accounts) :
    ∃ remain, (settleToken fails info delta accounts).2 =
      { accounts with tokenRemain := remain } := by
  unfold settleToken
  split_ifs with hplayground hdelta
  · exact ⟨_, rfl⟩
  · split
    · exact ⟨_, rfl⟩
    · rename_i after hok
      obtain ⟨-, -, rfl⟩ := Accounts.guarded_eq_ok.mp hok
      exact ⟨_, rfl⟩
  · split
    · exact ⟨_, rfl⟩
    · rename_i after hok
      obtain ⟨-, -, rfl⟩ := Accounts.guarded_eq_ok.mp hok
      exact ⟨_, rfl⟩

lemma recordUsage_frame (fails : Bool) (now : Int) (info : RelayInfo)
    (actualQuota : Int) (accounts : Accounts) :
    (recordValuePackageUsage fails now info actualQuota accounts).2 = accounts ∨
      0 < info.valuePackageSubscriptionId ∧
        (recordValuePackageUsage fails now info actualQuota accounts).2 =
          { accounts with
            db := accounts.db.saveUsage (upsertedUsage accounts.db
              ⟨info.userId, info.valuePackageSubscriptionId, info.requestId, actualQuota, 0,
                now⟩) } := by
  unfold recordValuePackageUsage
  split_ifs with hidle
  · exact .inl rfl
  · split
    · exact .inl rfl
    · rename_i after hok
      obtain ⟨-, db, htx, rfl⟩ := Accounts.runTx_eq_ok.mp hok
      obtain ⟨db', hrecord, hdb⟩ := bind_eq_ok.mp htx
      obtain ⟨-, rfl⟩ := recordUsageTx_eq_ok.mp hrecord
      cases hdb
      exact .inr ⟨by omega, rfl⟩

/-- A settled wallet has moved by the difference. -/
lemma settle_wallet_ok {source : WalletFunding}
    (h : (Funding.wallet source).settle fails delta accounts = .ok accounts') :
    accounts' = { accounts with userQuota := accounts.userQuota - delta } := by
  unfold Funding.settle at h
  dsimp only at h
  split_ifs at h with hzero hpos
  · cases h
    rw [hzero, sub_zero]
  · obtain ⟨-, -, rfl⟩ := Accounts.guarded_eq_ok.mp h
    rfl
  · obtain ⟨-, -, rfl⟩ := Accounts.guarded_eq_ok.mp h
    rw [sub_eq_add_neg]

/-- A settled subscription has moved by the difference, in one transaction. -/
lemma settle_subscription_ok {sub : SubscriptionFunding}
    (h : (Funding.subscription sub).settle fails delta accounts = .ok accounts') :
    (delta = 0 ∧ accounts' = accounts) ∨ delta ≠ 0 ∧ ∃ db,
      postConsumeUserSubscriptionDelta accounts.db sub.subscriptionId delta = .ok ((), db) ∧
        accounts' = { accounts with db } := by
  unfold Funding.settle at h
  dsimp only at h
  split_ifs at h with hzero
  · cases h
    exact .inl ⟨hzero, rfl⟩
  · obtain ⟨⟨result, after⟩, htx, h⟩ := bind_eq_ok.mp h
    obtain ⟨-, db, hpost, rfl⟩ := Accounts.runTx_eq_ok.mp htx
    cases h
    exact .inr ⟨hzero, db, hpost, rfl⟩

/-- What settling the funding source can do: move the value package to the target, or the wallet or
the regular subscription by the difference. -/
lemma settleFunding_ok (hsettled : session.fundingSettled = false)
    (h : session.settleFunding fails now actualQuota accounts = .ok accounts') :
    (∃ package result db, session.valuePackage? = some package ∧
        reserveValuePackageUsageToTarget accounts.db now package.requestId package.userId
          package.valuePackageSubscriptionId actualQuota = .ok (result, db) ∧
        accounts' = { accounts with db }) ∨
      session.valuePackage? = none ∧
        session.funding.settle fails (actualQuota - session.preConsumedQuota) accounts =
          .ok accounts' := by
  unfold settleFunding at h
  rw [if_neg (by simp [hsettled])] at h
  split at h
  · rename_i package hpackage
    obtain ⟨⟨result, after⟩, htx, h⟩ := bind_eq_ok.mp h
    obtain ⟨-, db, hreserve, rfl⟩ := Accounts.runTx_eq_ok.mp htx
    cases h
    exact .inl ⟨package, result, db, hpackage, hreserve, rfl⟩
  · rename_i hpackage
    exact .inr ⟨hpackage, h⟩

end BillingSession

end Yunbay
