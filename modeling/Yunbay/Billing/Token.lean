import Yunbay.Billing.SessionRun
import Yunbay.Billing.Start
import Yunbay.Subscription.Ledger

/-!
# The token of a session

What a session takes from the remaining quota of its token, for every kind of funding source. The
token leg is charged before the funding source on some paths and after it on others, with rollbacks
written out by hand.

* The frame lemmas say which calls move the token and by how much.
-/

namespace Yunbay

open Except Run

variable {session session' : BillingSession} {now actualQuota amount base : Int} {env : Env}
  {accounts' accounts : Accounts} {faults : Faults} {run : SessionRun}

open BillingSession

/-! ## What each part of a call does to the token -/

namespace BillingSession

variable {fails : Bool} {info : RelayInfo} {funding funding' : Funding} {delta : Int}

lemma reserveFunding_tokenRemain
    (h : reserveFunding fails funding delta accounts = .ok (funding', accounts')) :
    accounts'.tokenRemain = accounts.tokenRemain := by
  obtain ⟨source, -, -, rfl⟩ | ⟨sub, db, -, -, -, rfl⟩ := reserveFunding_ok h
  · rfl
  · rfl

/-- Taking a reservation back does not move the token. -/
lemma rollbackReserve_tokenRemain (fails : Bool) (funding : Funding) (delta : Int)
    (accounts : Accounts) :
    (rollbackFundingReserve fails funding delta accounts).2.tokenRemain = accounts.tokenRemain := by
  unfold rollbackFundingReserve
  cases funding with
  | wallet wallet =>
    dsimp only
    split
    · rfl
    · rename_i after hok
      obtain ⟨-, -, rfl⟩ := Accounts.guarded_eq_ok.mp hok
      rfl
  | subscription sub =>
    dsimp only
    split
    · rfl
    · rename_i after hok
      obtain ⟨-, db, -, rfl⟩ := Accounts.runTx_eq_ok.mp hok
      rfl

lemma settleFunding_tokenRemain (hsettled : session.fundingSettled = false)
    (h : session.settleFunding fails now actualQuota accounts = .ok accounts') :
    accounts'.tokenRemain = accounts.tokenRemain := by
  obtain ⟨package, result, db, -, -, rfl⟩ | ⟨-, h⟩ := settleFunding_ok hsettled h
  · rfl
  · cases hfunding : session.funding with
    | wallet source =>
      rw [hfunding] at h
      rw [settle_wallet_ok h]
    | subscription sub =>
      rw [hfunding] at h
      obtain ⟨-, rfl⟩ | ⟨-, db, -, rfl⟩ := settle_subscription_ok h
      · rfl
      · rfl

lemma refundFunding_tokenRemain (now : Int) (session : BillingSession) (job : RefundJob)
    (accounts : Accounts) :
    (session.refundFunding now job accounts).tokenRemain = accounts.tokenRemain := by
  unfold refundFunding Funding.refund
  cases session.funding <;> dsimp only <;> split_ifs <;> rfl

lemma runRefund_tokenRemain (now : Int) (session : BillingSession) (job : RefundJob)
    (accounts : Accounts) :
    (session.runRefund now job accounts).tokenRemain =
      if 0 < job.tokenConsumed ∧ ¬session.info.isPlayground then
        accounts.tokenRemain + job.tokenConsumed else accounts.tokenRemain := by
  unfold runRefund
  dsimp only
  split_ifs <;> simp only [refundFunding_tokenRemain]

lemma fundingPreConsume_tokenRemain
    (h : funding.preConsume env fails now amount accounts = .ok (funding', accounts')) :
    accounts'.tokenRemain = accounts.tokenRemain := by
  unfold Funding.preConsume at h
  cases funding with
  | wallet source =>
    dsimp only at h
    split_ifs at h with hidle
    · cases h
      rfl
    · obtain ⟨after, hok, h⟩ := bind_eq_ok.mp h
      cases h
      rw [Accounts.decreaseQuota_ok hok]
  | subscription sub =>
    dsimp only at h
    obtain ⟨⟨sub', after⟩, hsub, h⟩ := bind_eq_ok.mp h
    cases h
    unfold SubscriptionFunding.preConsume at hsub
    obtain ⟨⟨result, after⟩, htx, hsub⟩ := bind_eq_ok.mp hsub
    cases hsub
    obtain ⟨-, db, -, rfl⟩ := Accounts.runTx_eq_ok.mp htx
    rfl

end BillingSession

/-! ## The token follows the hold -/

/-- The token follows the hold of the run: an open hold is what the session believes it has taken
from the token and what has been taken from it. -/
structure TokenLeg (base : Int) (run : SessionRun) : Prop where
  isPlayground : run.session.info.isPlayground = false
  follows : run.hold.Follows
    (fun amount => run.session.tokenConsumed = amount ∧ base - run.accounts.tokenRemain = amount)
    (fun amount => base - run.accounts.tokenRemain = amount)

/-- The calls on the token that nothing makes up for succeed: that of a settlement, and the rollback
of a realtime reservation on a value package. -/
def TokenCallsSucceed (run : SessionRun) : SessionCall → Prop
  | .settle faults _ _ => faults.token = false
  | .reserveRealtime faults _ _ => run.session.valuePackage?.isSome → faults.rollback = false
  | .reserve .. | .refund | .runRefund _ => True

instance (run : SessionRun) (call : SessionCall) : Decidable (TokenCallsSucceed run call) := by
  induction call using SessionCall.casesOn <;> unfold TokenCallsSucceed <;> infer_instance

namespace BillingSession

variable {error : Option ApiError}

/-- What the session believes it has taken from the token grows with what is taken from it, and
with the reservation. A call that returns an error moves neither. -/
structure TokenMoves (session : BillingSession) (accounts : Accounts) (error : Option ApiError)
    (session' : BillingSession) (accounts' : Accounts) (amount : Int) : Prop where
  preConsumedQuota : session'.preConsumedQuota = session.preConsumedQuota + amount
  extraReserved : session'.extraReserved = session.extraReserved + amount
  tokenConsumed : session'.tokenConsumed = session.tokenConsumed + tokenShare session.info amount
  tokenRemain : accounts'.tokenRemain = accounts.tokenRemain - tokenShare session.info amount
  error : error.isSome → amount = 0

lemma TokenMoves.refl (session : BillingSession) (accounts : Accounts) (error : Option ApiError) :
    TokenMoves session accounts error session accounts 0 := by
  refine ⟨(add_zero _).symm, (add_zero _).symm, ?_, ?_, fun _ => rfl⟩
  · simp [tokenShare]
  · simp [tokenShare]

lemma TokenMoves.of_reserveMore {delta : Int} (hdelta : 0 < delta)
    (h : session.reserveMore faults delta accounts = (error, session', accounts')) :
    ∃ amount, TokenMoves session accounts error session' accounts' amount := by
  obtain ⟨-, rfl, rfl⟩ | ⟨funding, accounts₁, hfunding, hrest⟩ := reserveMore_cases h
  · exact ⟨0, TokenMoves.refl session' accounts' error⟩
  have hremain := reserveFunding_tokenRemain hfunding
  obtain ⟨-, rfl, rfl⟩ | ⟨reserved, rfl, htoken, rfl⟩ := hrest
  · refine ⟨0, (add_zero _).symm, (add_zero _).symm, ?_, ?_, fun _ => rfl⟩
    · simp [tokenShare]
    · rw [rollbackReserve_tokenRemain, hremain]
      simp [tokenShare]
  · obtain ⟨rfl, rfl⟩ := reserveToken_ok hdelta htoken
    refine ⟨delta, rfl, rfl, raised_tokenConsumed funding delta, ?_, by simp⟩
    rw [← hremain]

lemma TokenMoves.of_reservePackageRealtime {package : SubscriptionFunding} {target : Int}
    (htarget : session.preConsumedQuota < target) (hrollback : faults.rollback = false)
    (h : session.reservePackageRealtime faults now package target accounts =
      (error, session', accounts')) :
    ∃ amount, TokenMoves session accounts error session' accounts' amount := by
  have hdelta : 0 < target - session.preConsumedQuota := by omega
  obtain ⟨-, rfl, rfl⟩ | ⟨reserved, accounts₁, htoken, hrest⟩ := reservePackageRealtime_cases h
  · exact ⟨0, TokenMoves.refl session' accounts' error⟩
  obtain ⟨rfl, rfl⟩ := reserveToken_ok hdelta htoken
  obtain ⟨-, rfl, rfl⟩ | ⟨result, rfl, htx, rfl⟩ := hrest
  · -- the token gets back what it was charged
    refine ⟨0, (add_zero _).symm, (add_zero _).symm, ?_, ?_, fun _ => rfl⟩
    · simp [tokenShare]
    · rw [hrollback, Accounts.giveBackToken_eq _ hdelta.le]
      unfold tokenShare
      cases session'.info.isPlayground <;> simp
  · obtain ⟨-, db, -, rfl⟩ := Accounts.runTx_eq_ok.mp htx
    exact ⟨_, rfl, rfl, raised_tokenConsumed _ _, rfl, by simp⟩

lemma TokenMoves.of_reserve {targetQuota : Int}
    (h : session.reserve faults targetQuota accounts = (error, session', accounts')) :
    ∃ amount, TokenMoves session accounts error session' accounts' amount := by
  obtain ⟨-, rfl, rfl⟩ | ⟨-, -, htarget, h⟩ := reserve_cases h
  · exact ⟨0, TokenMoves.refl session' accounts' error⟩
  · exact TokenMoves.of_reserveMore (by omega) h

lemma TokenMoves.of_reserveRealtime {deltaQuota : Int}
    (hrollback : session.valuePackage?.isSome → faults.rollback = false)
    (h : session.reserveRealtime faults now deltaQuota accounts = (error, session', accounts')) :
    ∃ amount, TokenMoves session accounts error session' accounts' amount := by
  obtain ⟨-, rfl, actual, reserved, rfl⟩ | ⟨-, htarget, session₁, actual, reserved, hraise, rfl⟩ :=
    reserveRealtime_cases h
  · have hidle := TokenMoves.refl session accounts' error
    exact ⟨0, hidle.preConsumedQuota, hidle.extraReserved, hidle.tokenConsumed, hidle.tokenRemain,
      hidle.error⟩
  · -- the realtime counters are none of the token's
    have hmoves : ∃ amount, TokenMoves session accounts error session₁ accounts' amount := by
      rcases raiseTo_cases hraise with ⟨-, hmore⟩ | ⟨package, hpackage, hrealtime⟩
      · exact TokenMoves.of_reserveMore (by omega) hmore
      · exact TokenMoves.of_reservePackageRealtime htarget (hrollback (by simp [hpackage]))
          hrealtime
    obtain ⟨amount, hmoves⟩ := hmoves
    exact ⟨amount, hmoves.preConsumedQuota, hmoves.extraReserved, hmoves.tokenConsumed,
      hmoves.tokenRemain, hmoves.error⟩

end BillingSession

namespace TokenLeg

section

variable (h : TokenLeg base run) (hcontrol : Control run)

include h hcontrol

/-- Reserving keeps the token on the hold. -/
lemma grown {error : Option ApiError} (hgrown : Grown run.session session')
    (hmoves : TokenMoves run.session run.accounts error session' accounts' amount) :
    TokenLeg base { run with session := session', accounts := accounts' } := by
  have hshare : tokenShare run.session.info amount = amount := by
    simp [tokenShare, h.isPlayground]
  have hconsumed := hmoves.tokenConsumed
  have hremain := hmoves.tokenRemain
  rw [hshare] at hconsumed hremain
  refine ⟨hgrown.isPlayground.trans h.isPlayground, ?_⟩
  by_cases hopen : run.session.Open
  · have hfollows := h.follows
    have hopen' : session'.Open := ⟨hgrown.settled.trans hopen.1, hgrown.refunded.trans hopen.2⟩
    rw [hcontrol.hold_of_open hopen] at hfollows
    rw [(hcontrol.grown hgrown).1.hold_of_open hopen']
    obtain ⟨htoken, hbase⟩ := hfollows
    have hquota := hmoves.preConsumedQuota
    refine ⟨?_, ?_⟩ <;> dsimp only <;> omega
  · -- an ended session reserves nothing
    obtain ⟨actual, reserved, rfl⟩ := hgrown.frozen hopen
    have hzero : amount = 0 := by
      have := hmoves.preConsumedQuota
      simp only [setRealtime] at this
      omega
    rw [hzero, sub_zero] at hremain
    refine h.follows.imp ?_ ?_
    · rintro x ⟨htoken, hbase⟩
      exact ⟨htoken, by rw [hremain]; exact hbase⟩
    · intro x hbase
      rw [hremain]
      exact hbase

lemma settle (hrefunded : run.session.refunded = false) (htoken : faults.token = false) :
    TokenLeg base (sessionStep run (.settle faults now actualQuota)) := by
  obtain heq | ⟨hsettled, settledFunding, accounts₁, heq, hfunding⟩ :=
    sessionStep_settle_cases run faults now actualQuota
  · rw [heq]
    exact h
  · have hunsettled := hcontrol.fundingSettled_eq_false hsettled
    have hremain : accounts₁.tokenRemain = run.accounts.tokenRemain := by
      obtain ⟨-, rfl⟩ | ⟨-, hfunding⟩ := hfunding
      · rfl
      · exact settleFunding_tokenRemain hunsettled hfunding
    have hfollows := h.follows
    rw [hcontrol.hold_of_open ⟨hsettled, hrefunded⟩] at hfollows
    obtain ⟨-, hbase⟩ := hfollows
    rw [heq, htoken, settleToken_eq]
    refine ⟨h.isPlayground, ?_⟩
    show base - Accounts.tokenRemain _ = actualQuota
    have hrecord (after : Accounts) :
        (recordValuePackageUsage faults.usage now run.session.info actualQuota
          after).2.tokenRemain = after.tokenRemain := by
      obtain hsame | ⟨-, hsame⟩ :=
        recordUsage_frame faults.usage now run.session.info actualQuota after
      · rw [hsame]
      · rw [hsame]
    rw [hrecord]
    simp only [tokenShare, h.isPlayground, Bool.false_eq_true, if_false, hremain]
    omega

lemma refund : TokenLeg base (sessionStep run .refund) := by
  obtain ⟨heq, -⟩ | ⟨hopen, -, heq⟩ := sessionStep_refund_cases run
  · rw [heq]
    exact ⟨h.isPlayground, h.follows⟩
  · have hfollows := h.follows
    rw [hcontrol.hold_of_open hopen] at hfollows
    rw [heq]
    refine ⟨h.isPlayground, ?_⟩
    simp only [SessionRun.hold, hcontrol.settledWith_eq_none hopen.1, if_true, Option.isSome_some]
    exact hfollows

/-- The asynchronous part of a refund gives the token back what the session has taken. -/
lemma runRefund (now : Int) : TokenLeg base (sessionStep run (.runRefund now)) := by
  obtain ⟨-, heq⟩ | ⟨job, hjob, heq⟩ := sessionStep_runRefund_cases run now
  · rw [heq]
    exact h
  · obtain ⟨hbefore, hafter⟩ := hcontrol.hold_of_job hjob
    have hfollows := h.follows
    rw [hbefore] at hfollows
    obtain ⟨htoken, hbase⟩ := hfollows
    rw [heq]
    refine ⟨h.isPlayground, ?_⟩
    rw [hafter]
    show base - (run.session.runRefund now job run.accounts).tokenRemain = 0
    rw [runRefund_tokenRemain, (hcontrol.job job hjob).2]
    have hnonneg := hcontrol.nonneg
    simp only [h.isPlayground, Bool.false_eq_true, not_false_eq_true, and_true]
    split_ifs <;> omega

end

end TokenLeg

lemma TokenLeg.step {call : SessionCall} (h : TokenLeg base run) (hcontrol : Control run)
    (htoken : TokenCallsSucceed run call) (hsettle : NoSettleAfterRefund run call) :
    TokenLeg base (sessionStep run call) := by
  cases call with
  | reserve faults targetQuota =>
    obtain ⟨amount, hmoves⟩ := TokenMoves.of_reserve rfl
    exact h.grown hcontrol (Grown.of_reserve rfl) hmoves
  | reserveRealtime faults now deltaQuota =>
    obtain ⟨amount, hmoves⟩ := TokenMoves.of_reserveRealtime htoken rfl
    exact h.grown hcontrol (Grown.of_reserveRealtime rfl) hmoves
  | settle faults now actualQuota => exact h.settle hcontrol hsettle htoken
  | refund => exact h.refund hcontrol
  | runRefund now => exact h.runRefund hcontrol now

/-- The token and the counters of the session are as they were. -/
structure SameToken (session : BillingSession) (accounts : Accounts) (session' : BillingSession)
    (accounts' : Accounts) : Prop where
  tokenRemain : accounts'.tokenRemain = accounts.tokenRemain
  preConsumedQuota : session'.preConsumedQuota = session.preConsumedQuota
  tokenConsumed : session'.tokenConsumed = session.tokenConsumed
  extraReserved : session'.extraReserved = session.extraReserved

lemma BillingSession.TokenMoves.sameToken {error : ApiError}
    (h : TokenMoves session accounts (some error) session' accounts' amount) :
    SameToken session accounts session' accounts' := by
  obtain rfl := h.error rfl
  have hshare : tokenShare session.info 0 = 0 := by simp [tokenShare]
  refine ⟨?_, ?_, ?_, ?_⟩
  · rw [h.tokenRemain, hshare, sub_zero]
  · rw [h.preConsumedQuota, add_zero]
  · rw [h.tokenConsumed, hshare, add_zero]
  · rw [h.extraReserved, add_zero]

/-- A session that has just been built is an open hold that its token follows. -/
lemma tokenLeg_start {input : StartInput} {info : RelayInfo} {funding : Funding} {quota : Int}
    (hplayground : info.isPlayground = false) (hquota : 0 ≤ quota)
    (h : (blank info funding).preConsume env input faults quota accounts =
      (.ok session, accounts')) :
    Control (.start session accounts') ∧
      TokenLeg accounts.tokenRemain (.start session accounts') := by
  obtain ⟨funding', hfunding, rfl⟩ := preConsume_ok hquota h
  have hremain := fundingPreConsume_tokenRemain hfunding
  have hnonneg := effectiveQuota_nonneg input info funding hquota
  refine ⟨⟨rfl, nofun, nofun, nofun, hnonneg⟩, hplayground, ?_, ?_⟩
  · show tokenShare info (effectiveQuota input info funding quota) =
      effectiveQuota input info funding quota
    simp [tokenShare, hplayground]
  · show accounts.tokenRemain - accounts'.tokenRemain = effectiveQuota input info funding quota
    rw [hremain]
    simp [tokenShare, hplayground]

/-- The token has been charged the actual quota, or nothing after a refund. -/
structure TokenConserved (base : Int) (run : SessionRun) : Prop where
  settled : ∀ actual, run.settledWith = some actual → base - run.accounts.tokenRemain = actual
  refunded : run.session.refunded = true → run.job = none → base - run.accounts.tokenRemain = 0

lemma TokenLeg.conserved (h : TokenLeg base run) (hcontrol : Control run) :
    TokenConserved base run := by
  obtain ⟨hsettled, hrefunded⟩ := hcontrol.charged h.follows
  exact ⟨hsettled, hrefunded⟩

/-- The token of a session is charged the actual quota once, or nothing, in every run in which no
settlement comes after a refund, and the calls on the token that nothing makes up for succeed. A
reservation that fails leaves the token and the counters alone. -/
theorem token_follows_session (env : Env) (input : StartInput) (faults : Faults) (info : RelayInfo)
    (funding : Funding) (quota : Int) (accounts : Accounts)
    (hplayground : info.isPlayground = false) (hquota : 0 ≤ quota)
    (hrollback : faults.rollback = false) :
    (∀ error accounts', (blank info funding).preConsume env input faults quota accounts =
        (.error error, accounts') → accounts'.tokenRemain = accounts.tokenRemain) ∧
      (∀ session accounts' calls,
        (blank info funding).preConsume env input faults quota accounts =
          (.ok session, accounts') →
        Along sessionStep
          (fun run call => NoSettleAfterRefund run call ∧ TokenCallsSucceed run call)
          (.start session accounts') calls →
        TokenConserved accounts.tokenRemain
          (exec sessionStep (.start session accounts') calls)) ∧
      (∀ (session session' : BillingSession) faults targetQuota accounts accounts' error,
        session.reserve faults targetQuota accounts = (some error, session', accounts') →
          SameToken session accounts session' accounts') ∧
      (∀ (session session' : BillingSession) faults now deltaQuota accounts accounts' error,
        (session.valuePackage?.isSome → faults.rollback = false) →
        session.reserveRealtime faults now deltaQuota accounts =
          (some error, session', accounts') → SameToken session accounts session' accounts') := by
  refine ⟨?_, ?_, ?_, ?_⟩
  · intro error accounts' h
    obtain ⟨remain, rfl, hremain⟩ := preConsume_error hquota h
    exact hremain hrollback
  · intro session accounts' calls h hcalls
    obtain ⟨hcontrol, htoken⟩ := exec_induction
      (fun run => Control run ∧ TokenLeg accounts.tokenRemain run)
      (fun run call hinv hcall => ⟨(sessionStep_refines hinv.1 hcall.1).1,
        hinv.2.step hinv.1 hcall.2 hcall.1⟩)
      (tokenLeg_start hplayground hquota h) hcalls
    exact htoken.conserved hcontrol
  · intro session session' faults targetQuota accounts accounts' error h
    obtain ⟨amount, hmoves⟩ := TokenMoves.of_reserve h
    exact hmoves.sameToken
  · intro session session' faults now deltaQuota accounts accounts' error hrollback h
    obtain ⟨amount, hmoves⟩ := TokenMoves.of_reserveRealtime hrollback h
    exact hmoves.sameToken

/-- A request of user `1` that is paid from the wallet. -/
def sampleInfo : RelayInfo where
  userId := 1
  requestId := "r1"
  isPlayground := false
  tokenUnlimited := false
  forcePreConsume := false
  billingPreference := .walletOnly
  valuePackageUseWallet := false
  valuePackageSubscriptionId := 0
  valuePackageWalletFallback := false
  subscriptionId := 0
  realtimeActualQuota := 0
  realtimeReservedQuota := 0

/-- A price of `10`, without trust. -/
def sampleInput : StartInput where
  now := 2000
  appNow := 2000
  preConsumedQuota := 10
  quotaToPreConsume := 10
  priceQuota := 10
  subscriptionQuota := 10
  trustQuota := 0
  tokenQuota := 100
  cachedQuota := 100
  quotaReadFails := false
  subscriptionCheckFails := false
  walletFaults := .none
  subscriptionFaults := .none

/-- A user and a token with a quota of `100` each. -/
def sampleAccounts : Accounts := ⟨sampleDB, 100, 100⟩

/-- The wallet session of the sample request, as its pre-consume leaves it. -/
def sampleSession : BillingSession :=
  { blank sampleInfo (.wallet ⟨1, 10⟩) with preConsumedQuota := 10, tokenConsumed := 10 }

/-- The accounts after the pre-consume of the sample request. -/
def sampleHeld : Accounts := ⟨sampleDB, 90, 90⟩

/-- Reserving twice, with a funding call that fails, and settling above the reservation. -/
def settledCalls : List SessionCall :=
  [.reserve .none 20, .reserve { Faults.none with funding := true } 30,
    .reserveRealtime .none 2000 40, .settle .none 2000 55]

theorem settledCalls_charge_token :
    (exec sessionStep (.start sampleSession sampleHeld) settledCalls).settledWith = some 55 ∧
      TokenConserved 100
        (exec sessionStep (.start sampleSession sampleHeld) settledCalls) :=
  ⟨by decide, (token_follows_session sampleEnv sampleInput .none sampleInfo (.wallet ⟨1, 0⟩) 10
    sampleAccounts rfl (by decide) rfl).2.1 sampleSession sampleHeld settledCalls rfl (by decide)⟩

/-- A session is a hold. Once `preConsume` has opened it, the calls move it as a hold moves, and a
session that has been settled or released stays so. -/
theorem session_ends_once {input : StartInput} {info : RelayInfo} {funding : Funding} {quota : Int}
    (hquota : 0 ≤ quota) (hstart : (blank info funding).preConsume env input faults quota accounts =
      (.ok session, accounts')) (calls later : List SessionCall)
    (hcalls : Along sessionStep NoSettleAfterRefund (.start session accounts') (calls ++ later)) :
    Relation.ReflTransGen Hold.Step (.held session.preConsumedQuota)
        (exec sessionStep (.start session accounts') calls).hold ∧
      ∀ ended, (ended = .released ∨ ∃ actual, ended = .settled actual) →
        (exec sessionStep (.start session accounts') calls).hold = ended →
        (exec sessionStep (.start session accounts') (calls ++ later)).hold = ended := by
  obtain ⟨funding', -, rfl⟩ := preConsume_ok hquota hstart
  have hnonneg := effectiveQuota_nonneg input info funding hquota
  obtain ⟨hcalls, hlater⟩ := along_append.mp hcalls
  obtain ⟨hcontrol, hmoves⟩ := sessionRun_refines
    (by exact ⟨rfl, nofun, nofun, nofun, hnonneg⟩) hcalls
  refine ⟨hmoves, ?_⟩
  obtain ⟨-, hrest⟩ := sessionRun_refines hcontrol hlater
  rintro ended (rfl | ⟨actual, rfl⟩) hended
  all_goals rw [hended, ← exec_append] at hrest
  · exact Hold.eq_of_released hrest
  · exact Hold.eq_of_settled hrest

theorem settledCalls_end_once :
    (exec sessionStep (.start sampleSession sampleHeld) (settledCalls ++ [.refund])).hold =
      .settled 55 := by
  have hstart : (blank sampleInfo (.wallet ⟨1, 0⟩)).preConsume sampleEnv sampleInput .none 10
      sampleAccounts = (.ok sampleSession, sampleHeld) := rfl
  exact (session_ends_once (by decide) hstart settledCalls [.refund] (by decide)).2 _
    (.inr ⟨55, rfl⟩) rfl

/-- A settlement after the refund is checked against `settled` only, so it charges the difference to
a reservation that is gone. Of the actual quota of `25` the token pays `15`. -/
theorem settle_after_refund_keeps_token :
    (blank sampleInfo (.wallet ⟨1, 0⟩)).preConsume sampleEnv sampleInput .none 10 sampleAccounts =
        (.ok sampleSession, sampleHeld) ∧
      (exec sessionStep (.start sampleSession sampleHeld)
        [.refund, .runRefund 2000, .settle .none 2000 25]).settledWith = some 25 ∧
      (exec sessionStep (.start sampleSession sampleHeld)
        [.refund, .runRefund 2000, .settle .none 2000 25]).session.refunded = true ∧
      100 - (exec sessionStep (.start sampleSession sampleHeld)
        [.refund, .runRefund 2000, .settle .none 2000 25]).accounts.tokenRemain = 15 :=
  ⟨rfl, by decide, by decide, by decide⟩

end Yunbay
