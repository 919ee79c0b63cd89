import Yunbay.Ldxp.Verify

/-!
# LDXP sessions whose redemption has failed

A verification that cannot pay out a session commits it with the status `redeem_failed`. With a card
the redeem phase runs behind a savepoint, so that nothing of it is left. The direct top-up has no
savepoint: a failure after its first statement leaves what was done before.
-/

namespace Yunbay

open Table DirectStatement

/-! ## Statements of the direct top-up -/

/-- The statements after the top-up has been booked. -/
def laterStatements : List DirectStatement := [.addQuota, .addCents, .createCommission, .upgradeVIP]

/-- The statement fails when the top-up is booked, for a user that is there or not. -/
def DirectStatement.fails (fault : Option LdxpFault) (session : LdxpTopupSession) (topUp : TopUp)
    (hasUser : Bool) (statement : DirectStatement) : Bool :=
  match statement with
  | .addCents =>
    0 < session.userId ∧ 0 < amountToValidTopupCents session.amount ∧
      (fault = some (.direct statement) ∨ hasUser = false)
  | .createCommission => asksForCommission topUp ∧ fault = some (.direct statement)
  | .upgradeVIP => 0 < session.userId ∧ (fault = some (.direct statement) ∨ hasUser = false)
  | _ => fault = some (.direct statement)

section Direct

variable {env : LdxpEnv} {call : LdxpVerifyCall} {session : LdxpTopupSession} {topUp : TopUp}
  {hasUser : Bool} {ledger ledger' : LdxpLedger}

/-- The top-up of the session is booked, and its user is there or not. -/
structure Booked (session : LdxpTopupSession) (topUp : TopUp) (hasUser : Bool)
    (ledger : LdxpLedger) : Prop where
  topUp : topUpOf session ledger = some topUp
  user : (ledger.bank.shop.users.get? session.userId).isSome = hasUser

variable {shop : Shop} {userId : Int}

lemma addValidCents_error_iff {cents : Int} :
    (∃ err, addUserValidTopupCentsTx shop userId cents = .error err) ↔
      0 < userId ∧ 0 < cents ∧ (shop.users.get? userId).isSome = false := by
  unfold addUserValidTopupCentsTx
  split_ifs with hnothing
  · simp only [pure, Except.pure, reduceCtorEq, exists_false, false_iff]
    omega
  · have hpos : 0 < userId ∧ 0 < cents := by omega
    cases shop.users.get? userId with
    | none => simp [hpos]
    | some user => simp [pure, Except.pure]

lemma maybeUpgrade_error_iff {env : ShopEnv} :
    (∃ err, maybeUpgradeUserToVIPTx env shop userId = .error err) ↔
      0 < userId ∧ (shop.users.get? userId).isSome = false := by
  unfold maybeUpgradeUserToVIPTx
  split_ifs with hnothing
  · simp only [pure, Except.pure, reduceCtorEq, exists_false, false_iff]
    omega
  · have hpos : 0 < userId := by omega
    cases shop.users.get? userId with
    | none => simp [hpos]
    | some user =>
      dsimp only
      split_ifs <;> simp [pure, Except.pure]

lemma addValidCents_frame {shop' : Shop} {cents : Int}
    (h : addUserValidTopupCentsTx shop userId cents = .ok shop') :
    shop'.topUps = shop.topUps ∧
      (shop'.users.get? userId).isSome = (shop.users.get? userId).isSome := by
  obtain ⟨users, rfl, husers⟩ := addValidCents_users h
  exact ⟨rfl, by simp [husers]⟩

lemma maybeUpgrade_frame {env : ShopEnv} {shop' : Shop} {upgraded : Bool}
    (h : maybeUpgradeUserToVIPTx env shop userId = .ok (upgraded, shop')) :
    shop'.topUps = shop.topUps ∧
      (shop'.users.get? userId).isSome = (shop.users.get? userId).isSome := by
  obtain ⟨users, rfl, husers⟩ := maybeUpgrade_users h
  exact ⟨rfl, by simp [husers]⟩

lemma runDirectStatement_error_iff (statement : DirectStatement) :
    (∃ err, runDirectStatement env call session ledger statement = .error err) ↔
      (ledger.bank.shop.users.get? session.userId).isSome = false ∧ 0 < session.userId ∧
        (statement = .addCents ∧ 0 < amountToValidTopupCents session.amount ∨
          statement = .upgradeVIP) := by
  cases statement with
  | addCents =>
    have herror : (∃ err, runDirectStatement env call session ledger .addCents = .error err) ↔
        ∃ err, addUserValidTopupCentsTx ledger.bank.shop session.userId
          (amountToValidTopupCents session.amount) = .error err := by
      rw [runDirectStatement]
      split <;> simp_all
    rw [herror, addValidCents_error_iff]
    simp only [true_and, reduceCtorEq, or_false]
    tauto
  | upgradeVIP =>
    have herror : (∃ err, runDirectStatement env call session ledger .upgradeVIP = .error err) ↔
        ∃ err, maybeUpgradeUserToVIPTx env.shop ledger.bank.shop session.userId = .error err := by
      rw [runDirectStatement]
      split <;> simp_all
    rw [herror, maybeUpgrade_error_iff]
    simp only [reduceCtorEq, false_and, or_true, and_true]
    tauto
  | _ => simp [runDirectStatement]

lemma tryDirect_error_iff (h : Booked session topUp hasUser ledger)
    (statement : DirectStatement) :
    (∃ err, tryDirectStatement env call session statement ledger = .error err) ↔
      statement.fails call.fault session topUp hasUser = true := by
  unfold tryDirectStatement
  rw [Except.exists_ite_error, runDirectStatement_error_iff, h.user]
  cases statement with
  | createCommission => simp [queries, fails, h.topUp, and_comm]
  | addCents | upgradeVIP =>
    simp only [queries, fails, decide_eq_true_eq]
    tauto
  | _ => simp [queries, fails]

lemma Booked.step (h : Booked session topUp hasUser ledger) {statement : DirectStatement}
    (hlater : statement ≠ .createTopUp)
    (hok : tryDirectStatement env call session statement ledger = .ok ledger') :
    Booked session topUp hasUser ledger' := by
  unfold tryDirectStatement at hok
  split_ifs at hok
  suffices hframe : ledger'.bank.shop.topUps = ledger.bank.shop.topUps ∧
      (ledger'.bank.shop.users.get? session.userId).isSome =
        (ledger.bank.shop.users.get? session.userId).isSome by
    refine ⟨?_, hframe.2.trans h.user⟩
    unfold topUpOf
    rw [hframe.1]
    exact h.topUp
  cases statement with
  | createTopUp => exact absurd rfl hlater
  | addQuota =>
    cases hok
    split_ifs
    · exact ⟨rfl, rfl⟩
    · exact ⟨rfl, rfl⟩
  | addCents =>
    rw [runDirectStatement] at hok
    split at hok
    · cases hok
    next shop hcents =>
      cases hok
      exact addValidCents_frame hcents
  | createCommission =>
    cases hok
    rw [h.topUp]
    obtain ⟨commissions, hcreate, -⟩ :=
      maybeCreateCommission_spec env.shop ledger.bank.shop topUp
    rw [Option.elim_some, hcreate]
    exact ⟨rfl, rfl⟩
  | upgradeVIP =>
    rw [runDirectStatement] at hok
    split at hok
    · cases hok
    next upgraded shop hvip =>
      cases hok
      exact maybeUpgrade_frame hvip

variable {statements : List DirectStatement}

lemma Booked.isSome_run_iff (h : Booked session topUp hasUser ledger)
    (hlater : .createTopUp ∉ statements) :
    (Statements.run (tryDirectStatement env call session) statements ledger).1.isSome ↔
      ∃ statement ∈ statements, statement.fails call.fault session topUp hasUser = true := by
  refine Statements.isSome_run_iff (P := Booked session topUp hasUser) ?_ ?_ h
  · intro statement hmem s s' hs hok
    exact hs.step (fun hcreate => hlater (hcreate ▸ hmem)) hok
  · intro statement _ s hs
    exact tryDirect_error_iff hs statement

variable (env call) in
lemma Booked.run (h : Booked session topUp hasUser ledger) (hlater : .createTopUp ∉ statements) :
    Booked session topUp hasUser
      (Statements.run (tryDirectStatement env call session) statements ledger).2 := by
  apply Statements.run_induction (P := Booked session topUp hasUser) _ h
  intro statement hmem s s' hok hs
  exact hs.step (fun hcreate => hlater (hcreate ▸ hmem)) hok

variable (env session ledger) in
lemma booked_create (hfault : call.fault ≠ some (.direct .createTopUp)) :
    ∃ ledger', tryDirectStatement env call session .createTopUp ledger = .ok ledger' ∧
      Booked session (directTopUp session ledger.bank.shop)
        (ledger.bank.shop.users.get? session.userId).isSome ledger' := by
  refine ⟨_, if_neg (fun h => hfault h.1), ?_, rfl⟩
  exact get?_put_self _ (directTopUp session ledger.bank.shop)

end Direct

/-! ## Balances -/

/-- No top-up, quota, valid top-up, commission or code has changed. -/
structure SameBalances (ledger ledger' : LdxpLedger) : Prop where
  topUps : ledger'.bank.shop.topUps = ledger.bank.shop.topUps
  quotas : ledger'.bank.quotaOf = ledger.bank.quotaOf
  cents : ∀ userId,
    (ledger'.bank.shop.users.get? userId).map
        (fun user => (user.validTopupCents, user.validTopupHistoryCents)) =
      (ledger.bank.shop.users.get? userId).map
        fun user => (user.validTopupCents, user.validTopupHistoryCents)
  commissions : ledger'.bank.shop.commissions = ledger.bank.shop.commissions
  redemptions : ledger'.bank.redemptions = ledger.bank.redemptions

lemma SameBalances.refl (ledger : LdxpLedger) : SameBalances ledger ledger :=
  ⟨rfl, rfl, fun _ => rfl, rfl, rfl⟩

/-- The direct top-up fails after it has changed a balance: it has booked the top-up, or only a
commission if the top-up was there before. -/
def leavesPartialDirect (env : LdxpEnv) (fault : Option LdxpFault) (session : LdxpTopupSession)
    (ledger : LdxpLedger) : Bool :=
  let shop := ledger.bank.shop
  decide (0 < env.quotaOfAmount session.amount ∧ fault ≠ some .findTopUp) &&
    match topUpOf session ledger with
    | some existing =>
      decide (existing.userId = session.userId ∧ existing.status = .success ∧
        (commissionFor env.shop shop existing).isSome ∧ fault = some (.direct .upgradeVIP))
    | none =>
      decide (fault ≠ some (.direct .createTopUp)) &&
        laterStatements.any (fails fault session (directTopUp session shop)
          (shop.users.get? session.userId).isSome)

variable {topUp : TopUp}

lemma commissionFor_user {env : ShopEnv} {shop : Shop}
    (h : (commissionFor env shop topUp).isSome = true) :
    0 < topUp.userId ∧ (shop.users.get? topUp.userId).isSome = true := by
  unfold commissionFor at h
  split_ifs at h with hinvalid hexisting
  · cases h
  · cases h
  · push Not at hinvalid
    refine ⟨hinvalid.2.1, ?_⟩
    split at h
    · cases h
    next invitee hget =>
      rw [hget]
      rfl

lemma sameBalances_commission_iff {env : ShopEnv} {ledger : LdxpLedger} :
    SameBalances ledger
        (ledger.withShop (maybeCreateAffiliateCommissionForTopUpTx env ledger.bank.shop topUp)) ↔
      (commissionFor env ledger.bank.shop topUp).isSome = false := by
  unfold maybeCreateAffiliateCommissionForTopUpTx
  cases hcommission : commissionFor env ledger.bank.shop topUp with
  | none => exact iff_of_true (.refl ledger) rfl
  | some commission =>
    refine iff_of_false (fun hsame => ?_) (by simp)
    have hnew := commissionFor_new hcommission
    rw [← hsame.commissions] at hnew
    change (ledger.bank.shop.commissions.put commission).get? commission.topupId = none at hnew
    rw [get?_put_self] at hnew
    cases hnew

section Direct

variable {env : LdxpEnv} {call : LdxpVerifyCall} {session : LdxpTopupSession} {ledger : LdxpLedger}

lemma tryDirectStatement_commission {ledger' : LdxpLedger}
    (hbooked : topUpOf session ledger = some topUp)
    (hok : tryDirectStatement env call session .createCommission ledger = .ok ledger') :
    ledger' = ledger.withShop
      (maybeCreateAffiliateCommissionForTopUpTx env.shop ledger.bank.shop topUp) := by
  unfold tryDirectStatement at hok
  split_ifs at hok
  rw [runDirectStatement, hbooked] at hok
  exact (Except.ok.inj hok).symm

lemma run_existing_unchanged_iff {existing : TopUp}
    (hbooked : topUpOf session ledger = some existing) (huser : existing.userId = session.userId) :
    ((Statements.run (tryDirectStatement env call session) [.createCommission, .upgradeVIP]
        ledger).1.isSome → SameBalances ledger
          (Statements.run (tryDirectStatement env call session) [.createCommission, .upgradeVIP]
            ledger).2) ↔
      ¬((commissionFor env.shop ledger.bank.shop existing).isSome ∧
        call.fault = some (.direct .upgradeVIP)) := by
  have h : Booked session existing (ledger.bank.shop.users.get? session.userId).isSome ledger :=
    ⟨hbooked, rfl⟩
  cases hexec : tryDirectStatement env call session .createCommission ledger with
  | error err =>
    have hfails := (tryDirect_error_iff h .createCommission).mp ⟨err, hexec⟩
    rw [Statements.run_cons_of_error hexec]
    refine iff_of_true (fun _ => .refl ledger) ?_
    rintro ⟨-, hvip⟩
    simp [fails, hvip] at hfails
  | ok ledger' =>
    have hbooked' := h.step (by decide) hexec
    have hledger' := tryDirectStatement_commission hbooked hexec
    rw [Statements.run_cons_of_ok hexec]
    cases hvip : tryDirectStatement env call session .upgradeVIP ledger' with
    | error err =>
      have hfails := (tryDirect_error_iff hbooked' .upgradeVIP).mp ⟨err, hvip⟩
      rw [Statements.run_cons_of_error hvip]
      simp only [Option.isSome_some, forall_const, hledger', sameBalances_commission_iff]
      -- A commission to create needs a user, so only the database can have failed.
      by_cases hcommission : (commissionFor env.shop ledger.bank.shop existing).isSome = true
      · have hthere := (commissionFor_user hcommission).2
        rw [huser] at hthere
        simp only [fails, hthere, decide_eq_true_eq] at hfails
        simp [hcommission, hfails.2.resolve_right (by simp)]
      · simp [hcommission]
    | ok ledger'' =>
      rw [Statements.run_cons_of_ok hvip]
      refine iff_of_true (fun herror => ?_) ?_
      · cases herror
      · rintro ⟨hcommission, hfault⟩
        have hpos := (commissionFor_user hcommission).1
        rw [huser] at hpos
        have hfails : ∃ err, tryDirectStatement env call session .upgradeVIP ledger' =
            .error err :=
          (tryDirect_error_iff hbooked' .upgradeVIP).mpr
            (by simp [fails, hpos, hfault])
        simp [hvip] at hfails

lemma run_new_unchanged_iff (hnone : topUpOf session ledger = none) :
    ((Statements.run (tryDirectStatement env call session) (.createTopUp :: laterStatements)
        ledger).1.isSome → SameBalances ledger
          (Statements.run (tryDirectStatement env call session) (.createTopUp :: laterStatements)
            ledger).2) ↔
      ¬(call.fault ≠ some (.direct .createTopUp) ∧
        laterStatements.any (fails call.fault session
          (directTopUp session ledger.bank.shop)
          (ledger.bank.shop.users.get? session.userId).isSome) = true) := by
  by_cases hfault : call.fault = some (.direct .createTopUp)
  · have hexec : tryDirectStatement env call session .createTopUp ledger = .error .database :=
      if_pos ⟨hfault, rfl⟩
    rw [Statements.run_cons_of_error hexec]
    exact iff_of_true (fun _ => .refl ledger) (fun h => h.1 hfault)
  · obtain ⟨ledger', hexec, hbooked⟩ := booked_create env session ledger hfault
    have hlater : DirectStatement.createTopUp ∉ laterStatements := by decide
    rw [Statements.run_cons_of_ok hexec, hbooked.isSome_run_iff hlater]
    have hchanged : ¬SameBalances ledger
        (Statements.run (tryDirectStatement env call session) laterStatements ledger').2 := by
      intro hsame
      have htopUp := (hbooked.run env call hlater).topUp
      unfold topUpOf at htopUp hnone
      rw [hsame.topUps, hnone] at htopUp
      cases htopUp
    simp [hchanged, hfault]

lemma directTopUp_unchanged_iff (hnumber : session.workerOrderNo ≠ .blank) :
    ((directTopUpLdxpSessionTx env call session ledger).error.isSome →
        SameBalances ledger (directTopUpLdxpSessionTx env call session ledger).ledger) ↔
      leavesPartialDirect env call.fault session ledger = false := by
  unfold directTopUpLdxpSessionTx leavesPartialDirect
  dsimp only
  rw [if_neg hnumber]
  by_cases hquota : env.quotaOfAmount session.amount ≤ 0
  · rw [if_pos hquota]
    exact iff_of_true (fun _ => .refl ledger) (by simp [hquota])
  rw [if_neg hquota]
  by_cases hfind : call.fault = some .findTopUp
  · rw [if_pos hfind]
    exact iff_of_true (fun _ => .refl ledger) (by simp [hfind])
  rw [if_neg hfind]
  have hpos : 0 < env.quotaOfAmount session.amount := by omega
  cases hbooked : topUpOf session ledger with
  | some existing =>
    dsimp only
    by_cases hother : existing.userId ≠ session.userId ∨ existing.status ≠ .success
    · rw [if_pos hother]
      refine iff_of_true (fun _ => .refl ledger) ?_
      simp only [Bool.and_eq_false_iff, decide_eq_false_iff_not]
      tauto
    · rw [if_neg hother]
      push Not at hother
      refine (run_existing_unchanged_iff hbooked hother.1).trans ?_
      simp [hpos, hfind, hother]
  | none =>
    refine (run_new_unchanged_iff hbooked).trans ?_
    rw [← Bool.not_eq_true]
    simp [hpos, hfind]

lemma directTopUp_credit
    (h : SameBalances ledger (directTopUpLdxpSessionTx env call session ledger).ledger) :
    (directTopUpLdxpSessionTx env call session ledger).credit = none := by
  unfold directTopUpLdxpSessionTx at h ⊢
  dsimp only at h ⊢
  split_ifs at h ⊢
  · rfl
  · rfl
  · rfl
  cases hbooked : topUpOf session ledger with
  | some existing =>
    dsimp only
    split_ifs
    · rfl
    · rfl
  | none =>
    rw [hbooked] at h
    dsimp only at h ⊢
    unfold topUpOf at hbooked ⊢
    rw [h.topUps, hbooked]
    rfl

end Direct

/-! ## The other ways to fail -/

section Card

variable {env : LdxpEnv} {call : LdxpVerifyCall} {session : LdxpTopupSession} {ledger : LdxpLedger}

lemma redeemLdxpSessionCardTx_error
    (h : (redeemLdxpSessionCardTx env call session ledger).error.isSome = true) :
    (redeemLdxpSessionCardTx env call session ledger).ledger = ledger := by
  revert h
  unfold redeemLdxpSessionCardTx
  dsimp only
  generalize (if call.fault = some .readCode then _ else _ : Except RedeemError _) = read
  cases read with
  | error err => exact fun _ => rfl
  | ok plan =>
    dsimp only
    cases hrun : Statements.withSavepoint (tryCardStatement env call)
      (redeemWrites (redeemCallOf call session) plan) ledger.bank with
    | mk error bank =>
      cases error with
      | none => exact nofun
      | some err =>
        have hbank := Statements.withSavepoint_error (congrArg Prod.fst hrun)
        rw [hrun] at hbank
        exact fun _ => congrArg (fun bank => { ledger with bank }) hbank

lemma redeemCardPhase_error (h : (redeemCardPhase env call session ledger).error.isSome = true) :
    (redeemCardPhase env call session ledger).ledger = ledger ∧
      (redeemCardPhase env call session ledger).credit = none := by
  unfold redeemCardPhase at h ⊢
  dsimp only at h ⊢
  cases herror : (redeemLdxpSessionCardTx env call session ledger).error with
  | none => simp [herror] at h
  | some err =>
    have hledger : (redeemLdxpSessionCardTx env call session ledger).ledger = ledger :=
      redeemLdxpSessionCardTx_error (by simp [herror])
    dsimp only
    split
    · exact ⟨hledger, rfl⟩
    · exact ⟨hledger, rfl⟩

end Card

/-- The settlement has not given up on the session. -/
def NotRedeemFailed (db : LdxpDb) (sessionId : String) : Prop :=
  ∀ row, db.sessions.get? sessionId = some row → row.status ≠ .redeemFailed

section Settlement

variable {env : LdxpEnv} {times : SettleTimes} {db : LdxpDb}

lemma updateSession_ledger {sessionId : String} {set : LdxpTopupSession → LdxpTopupSession} :
    (db.updateSession sessionId set).ledger = db.ledger := by
  unfold LdxpDb.updateSession
  cases db.sessions.get? sessionId with
  | none | some => rfl

variable {session : LdxpTopupSession}

lemma notRedeemFailed_markSuccess {now : Int} :
    NotRedeemFailed (db.updateSession session.sessionId (·.markSuccess session now))
      session.sessionId := by
  intro row hrow
  unfold LdxpDb.updateSession at hrow
  cases hget : db.sessions.get? session.sessionId with
  | none => simp [hget] at hrow
  | some old =>
    have hkey : old.sessionId = session.sessionId := key_of_get? hget
    rw [hget, Option.elim_some, LdxpDb.get?_saveSession (by exact hkey),
      Option.some.injEq] at hrow
    simp [← hrow, LdxpTopupSession.markSuccess]

/-- A settlement completes the order or gives up, but never both. -/
lemma runSettlement_unchanged (steps : Nat) (settlement : Settlement) (db : LdxpDb)
    (h : NotRedeemFailed db settlement.session.sessionId) :
    (runSettlement env times steps settlement db).1.ledger = db.ledger ∨
      NotRedeemFailed (runSettlement env times steps settlement db).1
        settlement.session.sessionId := by
  induction steps generalizing settlement db with
  | zero => exact .inl rfl
  | succ steps ih =>
    rw [runSettlement]
    have hstep := settleStep_step env db times settlement
    generalize settleStep env db times settlement = outcome at hstep ⊢
    cases hstep with
    | unlinked | failed | succeeded => exact .inl updateSession_ledger
    | linked _ => exact ih _ db h
    | @completed session tradeNo shop =>
      -- The order is complete: the only step left marks the session as successful.
      right
      cases steps with
      | zero => exact h
      | succ steps => exact notRedeemFailed_markSuccess
    | rejected session tradeNo => exact ih (.markFailed session) db h
    | aborted session tradeNo => exact .inl rfl

lemma runSettlement_redeemFailed {verified : LdxpTopupSession} {steps : Nat}
    (hstatus : verified.status = .verified)
    (hget : (runSettlement env times steps (.link verified)
      (db.saveSession verified)).1.sessions.get? verified.sessionId = some session)
    (hfailed : session.status = .redeemFailed) :
    (runSettlement env times steps (.link verified) (db.saveSession verified)).1.ledger =
      db.ledger := by
  have hbefore : NotRedeemFailed (db.saveSession verified) verified.sessionId := by
    intro row hrow
    rw [LdxpDb.get?_saveSession rfl, Option.some.injEq] at hrow
    simp [← hrow, hstatus]
  rcases runSettlement_unchanged steps (.link verified) _ hbefore with hledger | hnot
  · exact hledger
  · exact absurd hfailed (hnot session hget)

end Settlement

/-! ## Whole calls -/

/-- The call books a top-up directly, and fails after it has changed a balance. -/
def leavesPartialTopUp (env : LdxpEnv) (db : LdxpDb) (call : LdxpVerifyCall) : Bool :=
  (db.sessions.get? (trimSpace call.sessionId)).any fun session =>
    decide (trimSpace call.sessionId ≠ "" ∧ call.mailMatchRequired = false ∧
      isLdxpSessionAlreadyRedeemed session = false ∧
      checkLdxpSession env db call session = .ok () ∧ session.purpose ≠ .valuePackage) &&
    leavesPartialDirect env call.fault session db.ledger

section Call

variable {env : LdxpEnv} {db : LdxpDb} {call : LdxpVerifyCall}

lemma leavesPartialTopUp_iff :
    leavesPartialTopUp env db call = true ↔
      ∃ session, Passed env db call session ∧ call.mailMatchRequired = false ∧
        session.purpose ≠ .valuePackage ∧
        leavesPartialDirect env call.fault session db.ledger = true := by
  simp only [leavesPartialTopUp, Option.any_eq_true, Bool.and_eq_true, decide_eq_true_eq]
  constructor
  · rintro ⟨session, hget, ⟨hid, hmail, hunpaid, hchecks, hpurpose⟩, hpart⟩
    exact ⟨session, ⟨hid, hget, hunpaid, hchecks⟩, hmail, hpurpose, hpart⟩
  · rintro ⟨session, ⟨hid, hget, hunpaid, hchecks⟩, hmail, hpurpose, hpart⟩
    exact ⟨session, hget, ⟨hid, hmail, hunpaid, hchecks, hpurpose⟩, hpart⟩

/-- The mark of the verification is none of what the direct top-up reads. -/
lemma leavesPartialDirect_markVerified (session : LdxpTopupSession)
    (event : Option LdxpMailEvent) (now : Int) (ledger : LdxpLedger) :
    leavesPartialDirect env call.fault (session.markVerified event now) ledger =
      leavesPartialDirect env call.fault session ledger := rfl

variable {session verified : LdxpTopupSession}

lemma verifyLdxpSessionTx_direct (h : Passed env db call session)
    (hmail : call.mailMatchRequired = false) (hpurpose : session.purpose ≠ .valuePackage)
    (hverified : verified = session.markVerified (mailOf db call session) call.now)
    {phase : RedeemPhase} (hphase : phase = directTopUpLdxpSessionTx env call verified db.ledger) :
    verifyLdxpSessionTx env db call =
      .ok (⟨.answer (phase.result env), phase.credit⟩,
        (db.withLedger phase.ledger).saveSession (phase.row verified call.now)) := by
  simp only [verifyLdxpSessionTx, if_neg h.id, h.get, h.unpaid, h.checks, hmail, redeemPhase,
    if_neg hpurpose, hphase, hverified, Bool.false_eq_true, if_false, false_and]

lemma RedeemPhase.row_sessionId (phase : RedeemPhase) (verified : LdxpTopupSession) (now : Int) :
    (phase.row verified now).sessionId = verified.sessionId := by
  unfold RedeemPhase.row
  cases phase.error with
  | none | some => rfl

lemma RedeemPhase.row_redeemFailed_iff (phase : RedeemPhase) (verified : LdxpTopupSession)
    (now : Int) : (phase.row verified now).status = .redeemFailed ↔ phase.error.isSome = true := by
  unfold RedeemPhase.row
  cases phase.error with
  | none => exact iff_of_false nofun nofun
  | some err => exact iff_of_true rfl rfl

/-- What was done before the failure stays. -/
lemma balances_changed_of_partial {call : LdxpCall}
    (h : leavesPartialTopUp env db call.verify = true) :
    ∃ session,
      (runLdxpCall env db call).1.sessions.get? (trimSpace call.verify.sessionId) = some session ∧
      session.status = .redeemFailed ∧
      ¬SameBalances db.ledger (runLdxpCall env db call).1.ledger := by
  obtain ⟨session, hpassed, hmail, hpurpose, hpart⟩ := leavesPartialTopUp_iff.mp h
  obtain ⟨verified, hverified⟩ : ∃ verified,
      verified = session.markVerified (mailOf db call.verify session) call.verify.now := ⟨_, rfl⟩
  have hfailed : ¬((directTopUpLdxpSessionTx env call.verify verified db.ledger).error.isSome →
      SameBalances db.ledger
        (directTopUpLdxpSessionTx env call.verify verified db.ledger).ledger) := by
    subst hverified
    rw [directTopUp_unchanged_iff (by exact hpassed.fields.1), leavesPartialDirect_markVerified,
      hpart]
    exact nofun
  push Not at hfailed
  rw [runLdxpCall_answer (verifyLdxpSessionTx_direct hpassed hmail hpurpose hverified rfl)]
  refine ⟨_, LdxpDb.get?_saveSession ?_, (RedeemPhase.row_redeemFailed_iff _ _ _).mpr hfailed.1,
    hfailed.2⟩
  rw [RedeemPhase.row_sessionId, hverified]
  exact hpassed.sessionId

lemma redeemPhase_unchanged (hpassed : Passed env db call session)
    (hpurpose : session.purpose ≠ .valuePackage)
    (hverified : verified = session.markVerified (mailOf db call session) call.now)
    (hpart : leavesPartialTopUp env db call = false)
    (herror : (redeemPhase env call verified db.ledger).error.isSome = true) :
    SameBalances db.ledger (redeemPhase env call verified db.ledger).ledger := by
  unfold redeemPhase at herror ⊢
  by_cases hmail : call.mailMatchRequired = true
  · rw [if_pos hmail] at herror ⊢
    rw [(redeemCardPhase_error herror).1]
    exact .refl db.ledger
  · rw [if_neg hmail] at herror ⊢
    rw [Bool.not_eq_true] at hmail
    have hdirect : leavesPartialDirect env call.fault session db.ledger = false := by
      rw [← Bool.not_eq_true] at hpart ⊢
      exact fun hdirect =>
        hpart (leavesPartialTopUp_iff.mpr ⟨session, hpassed, hmail, hpurpose, hdirect⟩)
    subst hverified
    exact (directTopUp_unchanged_iff (by exact hpassed.fields.1)).mpr
      ((leavesPartialDirect_markVerified _ _ _ _).trans hdirect) herror

end Call

/-- A call that ends with the session in status `redeem_failed` has changed no balance, unless its
direct top-up failed after the first change. -/
theorem redeem_failed_unchanged_iff (env : LdxpEnv) (db : LdxpDb) (call : LdxpCall) :
    (∀ session,
        (runLdxpCall env db call).1.sessions.get? (trimSpace call.verify.sessionId) = some session →
        session.status = .redeemFailed →
        SameBalances db.ledger (runLdxpCall env db call).1.ledger) ↔
      leavesPartialTopUp env db call.verify = false := by
  constructor
  · contrapose!
    intro hpart
    exact balances_changed_of_partial (Bool.ne_false_iff.mp hpart)
  · intro hpart session hsession hfailed
    cases htx : verifyLdxpSessionTx env db call.verify with
    | error err =>
      rw [runLdxpCall_error htx]
      exact .refl db.ledger
    | ok result =>
      obtain ⟨outcome, db'⟩ := result
      cases verifyLdxpSessionTx_step htx with
      | kept | failed =>
        rw [runLdxpCall_answer htx]
        exact .refl db.ledger
      | @settling old hpassed hpurpose =>
        rw [runLdxpCall_settle htx] at hsession ⊢
        rw [← hpassed.sessionId] at hsession
        rw [runSettlement_redeemFailed rfl hsession hfailed]
        exact .refl db.ledger
      | @redeemed old verified phase hpassed hpurpose hverified hphase =>
        have hkey : (phase.row verified call.verify.now).sessionId =
            trimSpace call.verify.sessionId := by
          rw [RedeemPhase.row_sessionId, hverified]
          exact hpassed.sessionId
        rw [runLdxpCall_answer htx] at hsession ⊢
        rw [LdxpDb.get?_saveSession hkey, Option.some.injEq] at hsession
        rw [← hsession, RedeemPhase.row_redeemFailed_iff] at hfailed
        subst hphase
        exact redeemPhase_unchanged hpassed hpurpose hverified hpart hfailed

/-- The user `1` with a paid session, before it is verified. -/
def sampleLdxpDb : LdxpDb where
  ledger := ⟨sampleBank, fun _ => ⟨0, 0⟩⟩
  sessions := Table.empty.put (sampleLdxpSession "s1" "N1")
  events := Table.empty
  orderIdOf _ := 0

/-- The last statement of the direct top-up fails. The session is `redeem_failed`, and the user has
the quota, the top-up and the valid top-up of it. -/
theorem redeem_failed_with_quota :
    let db := (runLdxpCall sampleLdxpEnv sampleLdxpDb
      ⟨sampleVerify "s1" (some (.direct .upgradeVIP)), ⟨100, ⟨100, 100, 100⟩⟩, none⟩).1
    (db.sessions.get? "s1").map LdxpTopupSession.status = some .redeemFailed ∧
      sampleLdxpDb.ledger.bank.quotaOf 1 = 0 ∧ db.ledger.bank.quotaOf 1 = 5000 ∧
      sampleLdxpDb.ledger.bank.shop.topUps.get? "ldxp:N1" = none ∧
      (db.ledger.bank.shop.topUps.get? "ldxp:N1").map TopUp.amount = some 10 ∧
      (db.ledger.bank.shop.users.get? 1).map User.validTopupCents = some 1000 := by
  decide +kernel

end Yunbay
