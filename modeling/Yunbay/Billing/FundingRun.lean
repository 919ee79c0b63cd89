import Yunbay.Billing.Funding
import Yunbay.Billing.Token

/-!
# Conservation of the wallet and of regular subscriptions

The account of a session follows the hold of its run. `funding_follows_session` is the conservation
of the account, in the runs that `FundingInOrder` describes, and `refund_leaves_wallet_charged` has
a run for each of its conditions that breaks it. -/

namespace Yunbay

open Run

variable {run : SessionRun} {call : SessionCall} {accounts' accounts : Accounts} {faults : Faults}
  {now : Int} {env : Env} {input : StartInput} {session : BillingSession} {info : RelayInfo}

open BillingSession

/-! ## Runs -/

/-- The order of calls in which the account follows the session. Rollbacks succeed; nothing more is
reserved after a refund has been asked for; no settlement comes after a refund; and no refund is
asked of an open playground session that has taken quota, as `needsRefundLocked` looks for it at the
token. -/
def FundingInOrder (run : SessionRun) : SessionCall → Prop
  | .reserve faults targetQuota => faults.rollback = false ∧
      (run.refundCalled = true → ¬(run.session.Open ∧ run.session.trusted = false ∧
        run.session.preConsumedQuota < targetQuota))
  | .reserveRealtime faults _ deltaQuota => faults.rollback = false ∧
      (run.refundCalled = true → ¬(run.session.Open ∧
        run.session.preConsumedQuota < run.session.info.realtimeActualQuota + deltaQuota))
  | .settle _ _ actualQuota => run.session.refunded = false ∧ 0 ≤ actualQuota
  | .refund => ¬(run.session.Open ∧ run.session.info.isPlayground = true ∧
      run.session.funding.account = .wallet ∧ 0 < run.session.preConsumedQuota)
  | .runRefund _ => True

instance (run : SessionRun) (call : SessionCall) : Decidable (FundingInOrder run call) := by
  induction call using SessionCall.casesOn <;> unfold FundingInOrder <;> infer_instance

lemma FundingInOrder.noSettleAfterRefund (h : FundingInOrder run call) :
    NoSettleAfterRefund run call := by
  cases call with
  | settle faults now actualQuota => exact h.1
  | reserve | reserveRealtime | refund | runRefund => trivial

/-- The account follows the hold of the run, and a refund that was asked for has left nothing to
give back. -/
structure FundingLeg (account : FundingAccount) (base : Int) (run : SessionRun) : Prop where
  follows : run.hold.Follows (fun _ => OpenLeg account base run.session run.accounts)
    (fun amount => account.Charged base run.accounts amount)
  answered : run.refundCalled = true → run.session.Open → run.session.preConsumedQuota = 0

namespace FundingLeg

variable {account : FundingAccount} {base : Int}

section

variable (h : FundingLeg account base run) (hcontrol : Control run)

include h hcontrol

lemma openLeg (hopen : run.session.Open) : OpenLeg account base run.session run.accounts := by
  have hfollows := h.follows
  rw [hcontrol.hold_of_open hopen] at hfollows
  exact hfollows

lemma grown {session' : BillingSession} (hgrown : Grown run.session session')
    (hleg : run.session.Open → OpenLeg account base session' accounts')
    (hfrozen : ¬run.session.Open → accounts' = run.accounts)
    (hquota : run.refundCalled = true → run.session.Open →
      session'.preConsumedQuota = run.session.preConsumedQuota) :
    FundingLeg account base { run with session := session', accounts := accounts' } := by
  by_cases hopen : run.session.Open
  · have hopen' : session'.Open := ⟨hgrown.settled.trans hopen.1, hgrown.refunded.trans hopen.2⟩
    refine ⟨?_, fun hcalled _ => (hquota hcalled hopen).trans (h.answered hcalled hopen)⟩
    rw [(hcontrol.grown hgrown).1.hold_of_open hopen']
    exact hleg hopen
  · -- an ended session changes its realtime counters at most
    obtain ⟨actual, reserved, rfl⟩ := hgrown.frozen hopen
    rw [hfrozen hopen]
    exact ⟨h.follows.imp (fun _ hleg => hleg.setRealtime actual reserved)
      (fun _ hcharged => hcharged),
      fun _ hopen' => absurd hopen' hopen⟩

lemma reserve {targetQuota : Int} (horder : FundingInOrder run (.reserve faults targetQuota)) :
    FundingLeg account base (sessionStep run (.reserve faults targetQuota)) := by
  rcases hr : run.session.reserve faults targetQuota run.accounts with ⟨error, session', accounts'⟩
  have hstep : sessionStep run (.reserve faults targetQuota) =
      { run with session := session', accounts := accounts' } := by
    simp [sessionStep, hr]
  rw [hstep]
  obtain ⟨-, rfl, rfl⟩ | ⟨hopen, htrusted, htarget, -⟩ := reserve_cases hr
  · exact h
  · exact h.grown hcontrol (Grown.of_reserve hr)
      (fun _ => (h.openLeg hcontrol hopen).reserve horder.1 hr) (absurd hopen)
      (fun hcalled _ => absurd ⟨hopen, htrusted, htarget⟩ (horder.2 hcalled))

lemma reserveRealtime {deltaQuota : Int}
    (horder : FundingInOrder run (.reserveRealtime faults now deltaQuota)) :
    FundingLeg account base (sessionStep run (.reserveRealtime faults now deltaQuota)) := by
  rcases hr : run.session.reserveRealtime faults now deltaQuota run.accounts with
    ⟨error, session', accounts'⟩
  have hstep : sessionStep run (.reserveRealtime faults now deltaQuota) =
      { run with session := session', accounts := accounts' } := by
    simp [sessionStep, hr]
  rw [hstep]
  have hgrown := Grown.of_reserveRealtime hr
  have hleg (hopen : run.session.Open) : OpenLeg account base session' accounts' :=
    (h.openLeg hcontrol hopen).reserveRealtime horder.1 hr
  obtain ⟨-, rfl, actual, reserved, rfl⟩ | ⟨hopen, htarget, -⟩ := reserveRealtime_cases hr
  · exact h.grown hcontrol hgrown hleg (fun _ => rfl) (fun _ _ => rfl)
  · exact h.grown hcontrol hgrown hleg (absurd hopen)
      (fun hcalled _ => absurd ⟨hopen, htarget⟩ (horder.2 hcalled))

lemma settle {actualQuota : Int} (horder : FundingInOrder run (.settle faults now actualQuota)) :
    FundingLeg account base (sessionStep run (.settle faults now actualQuota)) := by
  obtain heq | ⟨hsettled, settledFunding, accounts₁, heq, hfunding⟩ :=
    sessionStep_settle_cases run faults now actualQuota
  · rw [heq]
    exact h
  · have hleg := h.openLeg hcontrol ⟨hsettled, horder.1⟩
    have hcharged :=
      hleg.settleFunding (hcontrol.fundingSettled_eq_false hsettled) horder.2 hfunding
    obtain ⟨remain, htoken⟩ := settleToken_frame faults.token run.session.info
      (actualQuota - run.session.preConsumedQuota) accounts₁
    rw [heq, htoken]
    refine ⟨?_, fun _ hopen => nomatch hopen.1⟩
    show account.Charged base _ actualQuota
    obtain hsame | ⟨-, hsame⟩ := recordUsage_frame faults.usage now run.session.info
      actualQuota { accounts₁ with tokenRemain := remain }
    · exact hcharged.congr (by rw [hsame]) (by rw [hsame])
    · exact hcharged.congr (by rw [hsame]) (by rw [hsame]; rfl)

lemma refund (horder : FundingInOrder run .refund) :
    FundingLeg account base (sessionStep run .refund) := by
  obtain ⟨heq, hneeds⟩ | ⟨hopen, -, heq⟩ := sessionStep_refund_cases run
  · rw [heq]
    refine ⟨h.follows, fun _ hopen => ?_⟩
    exact (h.openLeg hcontrol hopen).preConsumedQuota_eq_zero hopen
      (hcontrol.fundingSettled_eq_false hopen.1) hcontrol.nonneg (hneeds hopen)
      fun hplayground => horder ⟨hopen, hplayground⟩
  · have hleg := h.openLeg hcontrol hopen
    rw [heq]
    refine ⟨?_, fun _ hopen' => nomatch hopen'.2⟩
    simp only [SessionRun.hold, hcontrol.settledWith_eq_none hopen.1, if_true, Option.isSome_some]
    exact ⟨hleg.held, hleg.extraReserved_nonneg, hleg.tokenConsumed, hleg.synced⟩

lemma runRefund (now : Int) : FundingLeg account base (sessionStep run (.runRefund now)) := by
  obtain ⟨-, heq⟩ | ⟨job, hjob, heq⟩ := sessionStep_runRefund_cases run now
  · rw [heq]
    exact h
  · obtain ⟨hbefore, hafter⟩ := hcontrol.hold_of_job hjob
    have hleg := h.follows
    rw [hbefore] at hleg
    have hcharged := OpenLeg.runRefund hleg hcontrol.nonneg now
    rw [← (hcontrol.job job hjob).2] at hcharged
    rw [heq]
    refine ⟨?_, h.answered⟩
    rw [hafter]
    exact hcharged

lemma step (horder : FundingInOrder run call) : FundingLeg account base (sessionStep run call) := by
  cases call with
  | reserve faults targetQuota => exact h.reserve hcontrol horder
  | reserveRealtime faults now deltaQuota => exact h.reserveRealtime hcontrol horder
  | settle faults now actualQuota => exact h.settle hcontrol horder
  | refund => exact h.refund hcontrol horder
  | runRefund now => exact h.runRefund hcontrol now

end

end FundingLeg

lemma openLeg_wallet (hquota : 0 ≤ input.walletConsume)
    (h : WalletStart env input accounts session accounts') :
    OpenLeg .wallet accounts.userQuota session accounts' ∧ session.funding.account = .wallet ∧
      session.funding.base accounts = accounts.userQuota ∧ session.Open ∧
      Control (.start session accounts') := by
  obtain ⟨info, remain, h⟩ := h
  obtain ⟨funding', hfunding, rfl⟩ := preConsume_ok hquota h
  have hnonneg := effectiveQuota_nonneg input info (.wallet ⟨info.userId, 0⟩) hquota
  obtain ⟨rfl, rfl⟩ := fundingPreConsume_wallet hnonneg hfunding
  refine ⟨⟨⟨rfl, rfl, ?_⟩, le_rfl, rfl, nofun⟩, rfl, rfl, ⟨rfl, rfl⟩,
    ⟨rfl, nofun, nofun, nofun, hnonneg⟩⟩
  show accounts.userQuota - (accounts.userQuota - effectiveQuota _ _ _ _) = effectiveQuota _ _ _ _
  omega

/-- A session on a regular subscription starts with a charge that it can undo, if the request is new
and no subscription shows a negative use. -/
lemma openLeg_regular (hfresh : accounts.db.preConsumeRecords.get? info.requestId = none)
    (hused : ∀ sub ∈ accounts.db.subscriptions.rows, 0 ≤ sub.amountUsed)
    (h : SubscriptionStart env input info 0 accounts session accounts') :
    ∃ id base, OpenLeg (.subscription id) base session accounts' ∧
      session.funding.account = .subscription id ∧ session.funding.base accounts = base ∧
      session.Open ∧ Control (.start session accounts') ∧
      ∃ row, accounts.db.subscriptions.get? id = some row ∧ (base = row.amountUsed ∨ base = 0) := by
  have hquota := subConsume_pos input
  obtain ⟨result, htx, rfl⟩ := h.tx
  rw [if_neg (lt_irrefl 0)] at htx
  have hcharge := preConsumeUserSubscription_ok hfresh htx
  obtain ⟨sub, row, plan, hrow, hbefore, hget, hafter, hroom, hplan, hregular⟩ := hcharge.stored
  obtain ⟨record, hrecord, hid, hpre, hstatus⟩ := hcharge.record
  have hbase : 0 ≤ result.amountUsedBefore := by
    rcases hbefore with heq | hzero
    · rw [heq]
      exact hused row (Table.mem_of_get? hrow)
    · exact hzero.ge
  have hpreConsumed := hcharge.preConsumed
  have husedAfter := hcharge.used
  refine ⟨result.userSubscriptionId, result.amountUsedBefore,
    ⟨⟨rfl, le_rfl, hcharge.notBlank, hbase, ?_, ?_, .inl rfl,
      ⟨sub, plan, hget, ?_, hroom, hplan, hregular⟩, ⟨record, hrecord, hid, ?_, hstatus⟩⟩,
      le_rfl, rfl, ?_⟩, rfl, ?_, ⟨rfl, rfl⟩, ⟨rfl, nofun, nofun, nofun, hquota.le⟩, row, hrow,
    hbefore⟩
  · show 0 < result.preConsumed
    rw [hpreConsumed]
    exact hcharge.amount_pos
  · show result.preConsumed + 0 = input.subConsume
    rw [hpreConsumed, add_zero]
  · rw [hafter, husedAfter]
    rfl
  · rw [hpre, ← hpreConsumed]
  · rintro id ⟨⟩
    rfl
  · show result.amountUsedAfter - result.preConsumed = result.amountUsedBefore
    omega

/-! ## Conservation -/

/-- The account has been charged the actual quota of the settlement, or nothing if the session was
refunded without one; and the session has not ended twice. -/
structure FundingConserved (account : FundingAccount) (base : Int) (run : SessionRun) : Prop where
  settled : ∀ actual, run.settledWith = some actual → account.Charged base run.accounts actual
  refunded : run.settledWith = none → run.refundCalled = true → run.job = none →
    account.Charged base run.accounts 0
  once : ¬(run.session.settled = true ∧ run.session.refunded = true)

lemma FundingLeg.conserved {account : FundingAccount} {base : Int} (h : FundingLeg account base run)
    (hcontrol : Control run) : FundingConserved account base run := by
  obtain ⟨hsettled, hreleased⟩ := hcontrol.charged h.follows
  refine ⟨hsettled, fun hnone hcalled hjob => ?_, hcontrol.once⟩
  by_cases hrefunded : run.session.refunded = true
  · exact hreleased hrefunded hjob
  · -- the refund found nothing to give back
    have hsettled := hcontrol.settledWith
    rw [hnone] at hsettled
    have hopen : run.session.Open := ⟨hsettled.symm, by simpa using hrefunded⟩
    have hcharged := (h.openLeg hcontrol hopen).held.charged
    rw [h.answered hcalled hopen] at hcharged
    exact hcharged

lemma openLeg_start (hquota : 0 ≤ input.walletConsume)
    (hfresh : accounts.db.preConsumeRecords.get? info.requestId = none)
    (hused : ∀ sub ∈ accounts.db.subscriptions.rows, 0 ≤ sub.amountUsed)
    (hstart : newBillingSession env input info accounts = (.ok session, accounts'))
    (hregular : session.valuePackage? = none) :
    session.Open ∧ Control (.start session accounts') ∧
      OpenLeg session.funding.account (session.funding.base accounts) session accounts' ∧
      ∀ id, session.funding.account = .subscription id →
        ∃ row, accounts.db.subscriptions.get? id = some row ∧
          (session.funding.base accounts = row.amountUsed ∨ session.funding.base accounts = 0) := by
  obtain hwallet | ⟨hpackage, hsub⟩ | hsub := newBillingSession_ok hquota hstart
  · obtain ⟨hleg, haccount, hbase, hopen, hcontrol⟩ := openLeg_wallet hquota hwallet
    rw [haccount, hbase]
    exact ⟨hopen, hcontrol, hleg, nofun⟩
  · -- a session on a value package is another matter
    obtain ⟨result, -, rfl⟩ := hsub.tx
    simp [subscriptionSession, blank, freshSubscription, valuePackage?, hpackage] at hregular
  · obtain ⟨id, base, hleg, haccount, hbase, hopen, hcontrol, row, hrow, hbefore⟩ :=
      openLeg_regular hfresh hused hsub
    rw [haccount, hbase]
    refine ⟨hopen, hcontrol, hleg, ?_⟩
    rintro id ⟨⟩
    exact ⟨row, hrow, hbefore⟩

/-- In every run of calls in order, the wallet or regular subscription is charged the actual quota
of the one settlement that takes effect, or nothing after a refund. The base is what the account
showed before, a due reset of the subscription being made first. -/
theorem funding_follows_session (env : Env) (input : StartInput) (info : RelayInfo)
    (accounts accounts' : Accounts) (session : BillingSession)
    (hquota : 0 ≤ input.walletConsume)
    (hfresh : accounts.db.preConsumeRecords.get? info.requestId = none)
    (hused : ∀ sub ∈ accounts.db.subscriptions.rows, 0 ≤ sub.amountUsed)
    (hstart : newBillingSession env input info accounts = (.ok session, accounts'))
    (hregular : session.valuePackage? = none) (calls : List SessionCall)
    (hcalls : Along sessionStep FundingInOrder (.start session accounts') calls) :
    FundingConserved session.funding.account (session.funding.base accounts)
        (exec sessionStep (.start session accounts') calls) ∧
      ∀ id, session.funding.account = .subscription id →
        ∃ row, accounts.db.subscriptions.get? id = some row ∧
          (session.funding.base accounts = row.amountUsed ∨ session.funding.base accounts = 0) := by
  obtain ⟨hopen, hcontrol, hopenLeg, hbase⟩ := openLeg_start hquota hfresh hused hstart hregular
  refine ⟨?_, hbase⟩
  have hleg : FundingLeg session.funding.account (session.funding.base accounts)
      (.start session accounts') := by
    refine ⟨?_, nofun⟩
    rw [hcontrol.hold_of_open hopen]
    exact hopenLeg
  obtain ⟨hcontrol', hleg'⟩ := exec_induction
    (fun run => Control run ∧
      FundingLeg session.funding.account (session.funding.base accounts) run)
    (fun run call hinv horder => ⟨(sessionStep_refines hinv.1 horder.noSettleAfterRefund).1,
      hinv.2.step hinv.1 horder⟩)
    ⟨hcontrol, hleg⟩ hcalls
  exact hleg'.conserved hcontrol'

/-- The sample accounts with a regular subscription of user `1`, of which `5` are used. -/
def regularAccounts : Accounts :=
  ⟨{ sampleDB with
      plans := sampleDB.plans.put ⟨2, .subscription, .other, 0, 0, 1000, .never, 0⟩
      subscriptions := sampleDB.subscriptions.put
        ⟨2, 1, 2, 1000, 5, 0, 1000, 10000000, .active, 0, 0, 1000⟩ }, 100, 100⟩

/-- A request that is paid from a regular subscription. -/
def regularInfo : RelayInfo := { sampleInfo with billingPreference := .subscriptionOnly }

/-- The session of `regularInfo`, as its pre-consume leaves it. -/
def regularSession : BillingSession :=
  subscriptionSession sampleInput regularInfo 0 ⟨2, 10, 1000, 5, 15, 0⟩

/-- The accounts after the pre-consume of `regularInfo`. -/
def regularHeld : Accounts :=
  (newBillingSession sampleEnv sampleInput regularInfo regularAccounts).2

/-- Reserving more, once in vain, and refunding it all. -/
def refundedCalls : List SessionCall :=
  [.reserve .none 20, .reserve { Faults.none with token := true } 30,
    .reserveRealtime .none 2000 40, .refund, .runRefund 2000]

theorem refundedCalls_charge_nothing :
    (FundingAccount.subscription 2).Charged 5
      (exec sessionStep (.start regularSession regularHeld) refundedCalls).accounts 0 :=
  (funding_follows_session sampleEnv sampleInput regularInfo regularAccounts regularHeld
    regularSession (by decide) rfl (by decide) rfl rfl refundedCalls (by decide)).1.refunded
    rfl rfl rfl

/-- The sample request from the playground. -/
def playgroundInfo : RelayInfo := { sampleInfo with isPlayground := true }

/-- The sample price for a user who is trusted with it. -/
def trustingInput : StartInput := { sampleInput with trustQuota := 5 }

/-- Three refunds that leave the wallet charged: that of a playground session, which has taken
nothing from the token, is skipped; a settlement after the refund charges the difference to a
reservation that is gone; and a trusted session has nothing to give back and stays open, so that a
realtime reservation can follow. -/
theorem refund_leaves_wallet_charged :
    (∃ session accounts, newBillingSession sampleEnv sampleInput playgroundInfo sampleAccounts =
        (.ok session, accounts) ∧
      (exec sessionStep (.start session accounts) [.refund]).settledWith = none ∧
      (exec sessionStep (.start session accounts) [.refund]).job = none ∧
      100 - (exec sessionStep (.start session accounts) [.refund]).accounts.userQuota = 10) ∧
    (∃ session accounts, newBillingSession sampleEnv sampleInput sampleInfo sampleAccounts =
        (.ok session, accounts) ∧
      (exec sessionStep (.start session accounts)
        [.refund, .runRefund 2000, .settle .none 2000 25]).settledWith = some 25 ∧
      (exec sessionStep (.start session accounts)
        [.refund, .runRefund 2000, .settle .none 2000 25]).session.refunded = true ∧
      100 - (exec sessionStep (.start session accounts)
        [.refund, .runRefund 2000, .settle .none 2000 25]).accounts.userQuota = 15) ∧
    ∃ session accounts, newBillingSession sampleEnv trustingInput sampleInfo sampleAccounts =
        (.ok session, accounts) ∧
      (exec sessionStep (.start session accounts)
        [.refund, .reserveRealtime .none 2000 30]).settledWith = none ∧
      (exec sessionStep (.start session accounts)
        [.refund, .reserveRealtime .none 2000 30]).job = none ∧
      100 - (exec sessionStep (.start session accounts)
        [.refund, .reserveRealtime .none 2000 30]).accounts.userQuota = 30 := by
  refine ⟨⟨_, _, rfl, ?_⟩, ⟨_, _, rfl, ?_⟩, ⟨_, _, rfl, ?_⟩⟩
  · exact ⟨rfl, rfl, rfl⟩
  · exact ⟨rfl, rfl, rfl⟩
  · exact ⟨rfl, rfl, rfl⟩

end Yunbay
