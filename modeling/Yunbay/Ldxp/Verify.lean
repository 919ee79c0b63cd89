import Yunbay.Data.Statements
import Yunbay.Ldxp.Session

/-!
# Verification of LDXP sessions

`tryVerifyAndRedeemLdxpSession` checks a session in one transaction and pays it out. A top-up is
booked in the same transaction: with the mail requirement the card of the shop is redeemed behind a
savepoint, without it the top-up is booked directly. A value package is settled afterwards, in
transactions of their own.

An outcome names the credit that a transaction has booked, if any. Every statement of the redeem
phase may fail in the database; the call says which one does. -/

namespace Yunbay

open Except hiding error

/-! ## Calls and their outcomes -/

/-- The codes of `LdxpVerifyResult`. -/
inductive LdxpVerifyCode where
  | pending
  | missingWorkerOrder
  | mailEventNotFound
  | orderMismatch
  | mailOrderMismatch
  | missingCard
  | cardMismatch
  | amountMismatch
  | statusNotPaid
  | redeemFailed
  | duplicateOrder
  | duplicateCard
  deriving DecidableEq

/-- A field that does not match. -/
structure LdxpVerifyFieldError where
  code : LdxpVerifyCode
  message : String
  deriving DecidableEq

/-- The answer of a verification. -/
structure LdxpVerifyResult where
  verified : Bool
  redeemed : Bool
  status : LdxpStatus
  /-- What is wrong, if anything is. -/
  error : Option LdxpVerifyFieldError

/-- The statements of `directTopUpLdxpSessionTx` that change something. -/
inductive DirectStatement where
  | createTopUp
  | addQuota
  | addCents
  | createCommission
  | upgradeVIP
  deriving DecidableEq

/-- A statement of the redeem phase that fails in the database. -/
inductive LdxpFault where
  | findTopUp
  | direct (statement : DirectStatement)
  | readCode
  | card (statement : RedeemStatement)
  deriving DecidableEq

/-- A call of `tryVerifyAndRedeemLdxpSession`. -/
structure LdxpVerifyCall where
  sessionId : String
  /-- The mail that was matched just before. -/
  preferredEvent : Option Int
  /-- `isLdxpMailMatchRequired`. -/
  mailMatchRequired : Bool
  /-- The database is not SQLite. -/
  locks : Bool
  now : Int
  /-- The clock when the card is redeemed. -/
  redeemNow : Int
  times : SaleTimes
  fault : Option LdxpFault

/-- What a transaction has booked for a session. -/
inductive LdxpCredit where
  | card (redemptionId : Int)
  | topUp (tradeNo : String)
  | package (tradeNo : String)
  deriving DecidableEq

inductive VerifyNext where
  | answer (result : LdxpVerifyResult)
  /-- The session is a value package, which is settled next. -/
  | settle (session : LdxpTopupSession)

/-- What the transaction has done. -/
structure VerifyOutcome where
  next : VerifyNext
  credit : Option LdxpCredit

/-! ## Writes to the session -/

namespace LdxpTopupSession

/-- A column of the mail is filled in if it is blank. -/
def fillText (old : Trimmed) (new : Option Trimmed) : Trimmed :=
  if old = .blank then new.getD old else old

/-- `ldxpMailFieldsFromEvent`. -/
def withMail (session : LdxpTopupSession) (event : Option LdxpMailEvent) : LdxpTopupSession :=
  { session with
    mailOrderNo := fillText session.mailOrderNo (event.map LdxpMailEvent.orderNo)
    mailCardKey := fillText session.mailCardKey (event.map LdxpMailEvent.cardKey)
    mailMessageId := fillText session.mailMessageId (event.bind LdxpMailEvent.messageId)
    mailAmount := event.elim session.mailAmount fun event =>
      if session.mailAmount.leZero ∧ event.amount.gtZero then event.amount
      else session.mailAmount }

/-- `persistLdxpVerifyFailureTx`. -/
def markVerifyFailed (session : LdxpTopupSession) (event : Option LdxpMailEvent) (now : Int) :
    LdxpTopupSession :=
  { session.withMail event with status := .verifyFailed, updatedTime := now }

/-- `persistLdxpVerifiedTx`. -/
def markVerified (session : LdxpTopupSession) (event : Option LdxpMailEvent) (now : Int) :
    LdxpTopupSession :=
  { session.withMail event with
    status := .verified
    verifiedTime := if session.verifiedTime = 0 then now else session.verifiedTime
    updatedTime := now }

/-- `persistLdxpRedeemSuccessTx`, with the columns of the session in memory. -/
def markSuccess (row session : LdxpTopupSession) (now : Int) : LdxpTopupSession :=
  { row with
    status := .success
    verifiedTime := if session.verifiedTime = 0 then now else session.verifiedTime
    redeemedTime := if session.redeemedTime = 0 then now else session.redeemedTime
    redemptionId := session.redemptionId
    topupId := session.topupId
    updatedTime := now }

/-- `persistLdxpRedeemFailureTx`, with the columns of the session in memory. -/
def markRedeemFailed (row session : LdxpTopupSession) (now : Int) : LdxpTopupSession :=
  { row with
    status := .redeemFailed
    verifiedTime := if session.verifiedTime = 0 then now else session.verifiedTime
    updatedTime := now }

end LdxpTopupSession

/-! ## Checks -/

/-- The status text that a worker has reported says that the order is paid. -/
def checkPaidText (session : LdxpTopupSession) : Except LdxpVerifyFieldError Unit :=
  check (isPaidText session.workerStatusText)
    ⟨.statusNotPaid, "ldxp worker status is not paid or successful"⟩

/-- A positive price has been paid, unless the check is left out. `what` names the amount in the
error. -/
def checkPrice (env : LdxpEnv) (session : LdxpTopupSession) (applies : Bool) (amount : Money)
    (what : String) : Except LdxpVerifyFieldError Unit :=
  check
    (¬(session.money.gtZero ∧ applies ∧ env.isPaidAmountAcceptable amount session.money = false))
    ⟨.amountMismatch, "session money " ++ env.showMoney session.money ++ " does not match " ++
      what ++ " amount " ++ env.showMoney amount⟩

def verifyLdxpWorkerPaidFields (env : LdxpEnv) (session : LdxpTopupSession) :
    Except LdxpVerifyFieldError Unit := do
  check (session.workerOrderNo ≠ .blank)
    ⟨.missingWorkerOrder, "ldxp worker order number is missing"⟩
  check (session.workerAmount.leZero = false)
    ⟨.amountMismatch, "ldxp worker amount is missing"⟩
  checkPrice env session true session.workerAmount "worker"
  checkPaidText session

def verifyLdxpSessionFields (env : LdxpEnv) (session : LdxpTopupSession) :
    Option LdxpMailEvent → Except LdxpVerifyFieldError Unit
  | none => do
    check (session.workerOrderNo ≠ .blank)
      ⟨.missingWorkerOrder, "ldxp worker order number is missing"⟩
    .error ⟨.mailEventNotFound, "matching ldxp mail event was not found"⟩
  | some event => do
    check (session.workerOrderNo ≠ .blank)
      ⟨.missingWorkerOrder, "ldxp worker order number is missing"⟩
    check (event.orderNo ≠ .blank)
      ⟨.mailEventNotFound, "matching ldxp mail event has no order number"⟩
    check (session.workerOrderNo = event.orderNo)
      ⟨.orderMismatch, "worker order " ++ session.workerOrderNo.val ++
        " does not match mail event order " ++ event.orderNo.val⟩
    check (session.mailOrderNo = .blank ∨ session.mailOrderNo = session.workerOrderNo)
      ⟨.mailOrderMismatch, "attached mail order " ++ session.mailOrderNo.val ++
        " does not match worker order " ++ session.workerOrderNo.val⟩
    check (session.workerCardKey ≠ .blank ∧ event.cardKey ≠ .blank)
      ⟨.missingCard, "ldxp card key is missing"⟩
    check (session.workerCardKey = event.cardKey)
      ⟨.cardMismatch, "worker card key does not match mail event card key"⟩
    check (session.mailCardKey = .blank ∨ session.mailCardKey = session.workerCardKey)
      ⟨.cardMismatch, "attached mail card key does not match worker card key"⟩
    checkPrice env session event.amount.gtZero event.amount "mail event"
    checkPrice env session session.mailAmount.gtZero session.mailAmount "attached mail"
    checkPaidText session

section Fields

variable {env : LdxpEnv} {session : LdxpTopupSession}

/-- The checks without a mail ask for an order number that is paid. -/
lemma verifyLdxpWorkerPaidFields_ok (h : verifyLdxpWorkerPaidFields env session = .ok ()) :
    session.workerOrderNo ≠ .blank ∧ isPaidText session.workerStatusText = true := by
  simp only [verifyLdxpWorkerPaidFields, checkPrice, checkPaidText, bind_eq_ok,
    check_eq_ok, exists_const] at h
  exact ⟨h.1, h.2.2.2⟩

lemma verifyLdxpSessionFields_ok {event : Option LdxpMailEvent}
    (h : verifyLdxpSessionFields env session event = .ok ()) :
    session.workerOrderNo ≠ .blank ∧ isPaidText session.workerStatusText = true := by
  cases event with
  | none => simp [verifyLdxpSessionFields, bind_eq_ok] at h
  | some event =>
    simp only [verifyLdxpSessionFields, checkPrice, checkPaidText, bind_eq_ok,
      check_eq_ok, exists_const] at h
    exact ⟨h.1, h.2.2.2.2.2.2.2.2.2⟩

end Fields

def getLdxpVerifyMailEventTx (db : LdxpDb) (session : LdxpTopupSession) :
    Option Int → Option LdxpMailEvent
  | some id => db.events.get? id
  | none =>
    let first (p : LdxpMailEvent → Bool) := db.events.first? p fun event other =>
      event.id < other.id
    let last (p : LdxpMailEvent → Bool) := db.events.first? p fun event other =>
      other.id < event.id
    (last fun event => event.matchedSessionId = session.sessionId ∧ event.processed) <|>
    (if session.mailMessageId = .blank then none
      else first fun event => event.messageId = some session.mailMessageId) <|>
    (if session.workerOrderNo = .blank ∨ session.workerCardKey = .blank then none
      else last fun event =>
        event.orderNo = session.workerOrderNo ∧ event.cardKey = session.workerCardKey) <|>
    (if session.workerOrderNo = .blank then none
      else first fun event => event.orderNo = session.workerOrderNo)

/-- The order numbers of a session. -/
def LdxpTopupSession.orderNos (session : LdxpTopupSession) : List Trimmed :=
  [session.workerOrderNo, session.mailOrderNo]

/-- The card keys of a session. -/
def LdxpTopupSession.cardKeys (session : LdxpTopupSession) : List Trimmed :=
  [session.workerCardKey, session.mailCardKey]

/-- `rejectDuplicateSuccessfulLdxpValueTx`: no other successful session has the value in one of its
columns. -/
def rejectDuplicateSuccessfulLdxpValueTx (db : LdxpDb) (session : LdxpTopupSession)
    (code : LdxpVerifyCode) (what : String) (columns : LdxpTopupSession → List Trimmed)
    (value : Trimmed) : Except LdxpVerifyFieldError Unit :=
  if value = .blank then .ok ()
  else
    match db.sessions.first?
      (fun other => other.sessionId ≠ session.sessionId ∧ other.status = .success ∧
        value ∈ columns other)
      fun other another => other.id < another.id with
    | none => .ok ()
    | some duplicate =>
      .error ⟨code, "ldxp " ++ what ++ " is already used by successful session " ++
        duplicate.sessionId⟩

def rejectDuplicateSuccessfulLdxpSessionTx (db : LdxpDb) (session : LdxpTopupSession)
    (event : Option LdxpMailEvent) : Except LdxpVerifyFieldError Unit := do
  (session.orderNos ++ event.toList.map LdxpMailEvent.orderNo).forM
    (rejectDuplicateSuccessfulLdxpValueTx db session .duplicateOrder "order number"
      LdxpTopupSession.orderNos)
  (session.cardKeys ++ event.toList.map LdxpMailEvent.cardKey).forM
    (rejectDuplicateSuccessfulLdxpValueTx db session .duplicateCard "card key"
      LdxpTopupSession.cardKeys)

def isLdxpSessionAlreadyRedeemed (session : LdxpTopupSession) : Bool :=
  session.status = .success ∨
    (session.status = .verified ∨ session.status = .redeemed) ∧
      (0 < session.redemptionId ∨ 0 < session.topupId)

/-! ## The redeem phase -/

/-- The errors of the redeem phase. -/
inductive LdxpRedeemError where
  | field (err : LdxpVerifyFieldError)
  | redeem (err : RedeemError)
  | shop (err : ShopError)
  | database
  deriving DecidableEq

def RedeemError.message : RedeemError → String
  | .notProvided => "redemption.not_provided"
  | .invalid => "redemption.invalid"
  | .used => "redemption.used"
  | .expired => "redemption.expired"
  | .unsupportedKind => "redemption.unsupported_kind"
  | .failed => "redeem.failed"

def LdxpRedeemError.message (env : LdxpEnv) : LdxpRedeemError → String
  | .field err => err.message
  | .redeem err => err.message
  | .shop err => err.message
  | .database => env.databaseError

/-- How the redeem phase ends: the session in memory and the ledger it leaves. -/
structure RedeemPhase where
  error : Option LdxpRedeemError
  credit : Option LdxpCredit
  session : LdxpTopupSession
  ledger : LdxpLedger

namespace LdxpLedger

@[simps]
def withShop (ledger : LdxpLedger) (shop : Shop) : LdxpLedger :=
  { ledger with bank := ledger.bank.withShop shop }

/-- Note when a top-up was created. -/
@[simps]
def stamp (ledger : LdxpLedger) (tradeNo : String) (now : Int) : LdxpLedger :=
  { ledger with topUpTimes := Function.update ledger.topUpTimes tradeNo ⟨now, now⟩ }

end LdxpLedger

section Direct

variable (env : LdxpEnv) (call : LdxpVerifyCall) (session : LdxpTopupSession)

def ldxpDirectTopUpTradeNo (workerOrderNo : Trimmed) : String :=
  if workerOrderNo = .blank then "" else "ldxp:" ++ workerOrderNo.val

/-- The top-up that is booked directly. -/
def directTopUp (shop : Shop) : TopUp where
  tradeNo := ldxpDirectTopUpTradeNo session.workerOrderNo
  id := shop.nextTopUpId
  userId := session.userId
  amount := session.amount
  money := session.money
  paymentMethod := "ldxp"
  paymentProvider := "ldxp"
  status := .success

/-- The top-up of the session, if there is one. -/
def topUpOf (ledger : LdxpLedger) : Option TopUp :=
  ledger.bank.shop.topUps.get? (ldxpDirectTopUpTradeNo session.workerOrderNo)

/-- `MaybeCreateAffiliateCommissionForTopUpTx` asks the database about a top-up. -/
def asksForCommission (topUp : TopUp) : Bool :=
  ¬(topUp.id ≤ 0 ∨ topUp.userId ≤ 0 ∨ topUp.status ≠ .success ∨ topUp.money.leZero)

/-- The statement gets to the database, where it may fail. -/
def DirectStatement.queries (ledger : LdxpLedger) : DirectStatement → Bool
  | .createTopUp => true
  | .addQuota => true
  | .addCents => 0 < session.userId ∧ 0 < amountToValidTopupCents session.amount
  | .createCommission => (topUpOf session ledger).elim false asksForCommission
  | .upgradeVIP => 0 < session.userId

/-- The effect of a statement that the database carries out. -/
def runDirectStatement (ledger : LdxpLedger) : DirectStatement → Except LdxpRedeemError LdxpLedger
  | .createTopUp =>
    .ok ((ledger.withShop
        (ledger.bank.shop.saveTopUp (directTopUp session ledger.bank.shop))).stamp
      (ldxpDirectTopUpTradeNo session.workerOrderNo) call.redeemNow)
  | .addQuota =>
    .ok (if (ledger.bank.shop.users.get? session.userId).isSome then
      { ledger with
        bank := ledger.bank.addQuota session.userId (env.quotaOfAmount session.amount) }
    else ledger)
  | .addCents =>
    match addUserValidTopupCentsTx ledger.bank.shop session.userId
      (amountToValidTopupCents session.amount) with
    | .error err => .error (.shop err)
    | .ok shop => .ok (ledger.withShop shop)
  | .createCommission =>
    .ok ((topUpOf session ledger).elim ledger fun topUp =>
      ledger.withShop
        (maybeCreateAffiliateCommissionForTopUpTx env.shop ledger.bank.shop topUp))
  | .upgradeVIP =>
    match maybeUpgradeUserToVIPTx env.shop ledger.bank.shop session.userId with
    | .error err => .error (.shop err)
    | .ok (_, shop) => .ok (ledger.withShop shop)

/-- A statement, which fails if it gets to the database and the call says so. -/
def tryDirectStatement (statement : DirectStatement) (ledger : LdxpLedger) :
    Except LdxpRedeemError LdxpLedger :=
  if call.fault = some (.direct statement) ∧ statement.queries session ledger then .error .database
  else runDirectStatement env call session ledger statement

/-- `directTopUpLdxpSessionTx`. Nothing takes back what was done before a failure. -/
def directTopUpLdxpSessionTx (ledger : LdxpLedger) : RedeemPhase :=
  let fail (err : LdxpRedeemError) : RedeemPhase := ⟨some err, none, session, ledger⟩
  if session.workerOrderNo = .blank then
    fail (.field ⟨.missingWorkerOrder, "ldxp worker order number is missing"⟩)
  else if env.quotaOfAmount session.amount ≤ 0 then
    fail (.field ⟨.amountMismatch, "ldxp topup amount is invalid"⟩)
  else if call.fault = some .findTopUp then fail .database
  else
    match topUpOf session ledger with
    | some existing =>
      if existing.userId ≠ session.userId ∨ existing.status ≠ .success then
        fail (.field ⟨.duplicateOrder, "ldxp order number is already used by another topup"⟩)
      else
        let (error, ledger) := Statements.run (tryDirectStatement env call session)
          [.createCommission, .upgradeVIP] ledger
        ⟨error, none, { session with topupId := existing.id }, ledger⟩
    | none =>
      let (error, ledger') := Statements.run (tryDirectStatement env call session)
        [.createTopUp, .addQuota, .addCents, .createCommission, .upgradeVIP] ledger
      ⟨error, (topUpOf session ledger').map fun topUp => .topUp topUp.tradeNo,
        { session with topupId := ledger.bank.shop.nextTopUpId }, ledger'⟩

end Direct

section Card

variable (env : LdxpEnv) (call : LdxpVerifyCall) (session : LdxpTopupSession)

/-- The call of `RedeemWithTx` for the user of the session. -/
def redeemCallOf : RedeemCall := ⟨session.userId, call.locks, call.redeemNow, call.times⟩

/-- A statement of `RedeemWithTx`, which fails if the call says so. -/
def tryCardStatement (statement : RedeemStatement) (bank : Bank) : Except RedeemError Bank :=
  if call.fault = some (.card statement) then .error .failed
  else runRedeemStatement env.shop statement bank

/-- `RedeemLdxpSessionCardTx` behind the savepoint `ldxp_redeem`. -/
def redeemLdxpSessionCardTx (ledger : LdxpLedger) : RedeemPhase :=
  let read :=
    if call.fault = some .readCode then .error .failed
    else redeemRead session.workerCardKey.val (redeemCallOf call session) ledger.bank
  match read with
  | .error err => ⟨some (.redeem err), none, session, ledger⟩
  | .ok plan =>
    match Statements.withSavepoint (tryCardStatement env call)
      (redeemWrites (redeemCallOf call session) plan) ledger.bank with
    | (some err, bank) => ⟨some (.redeem err), none, session, { ledger with bank }⟩
    | (none, bank) =>
      ⟨none, some (.card plan.redemption.id),
        { session with redemptionId := plan.redemption.id, topupId := 0 },
        LdxpLedger.stamp { ledger with bank }
          (createRedemptionTopUpTradeNo plan.redemption.id session.userId) call.redeemNow⟩

def ldxpRecoveredRedemptionHasCurrentSessionTopUpTx (ledger : LdxpLedger)
    (redemption : Redemption) : Bool :=
  let tradeNo := createRedemptionTopUpTradeNo redemption.id session.userId
  0 < session.verifiedTime ∧ redemption.kind = .paidTopUp ∧ redemption.countAsTopUp ∧
    redemption.source = .ldxp ∧ session.verifiedTime ≤ redemption.redeemedTime ∧
    ((ledger.bank.shop.topUps.get? tradeNo).elim false fun topUp =>
      topUp.userId = session.userId ∧ topUp.status = .success) ∧
    session.verifiedTime ≤ (ledger.topUpTimes tradeNo).createTime ∧
    session.verifiedTime ≤ (ledger.topUpTimes tradeNo).completeTime

/-- `recoverLdxpSameUserUsedRedemptionTx`: the session in memory, if the user has redeemed the card
after the session was verified. -/
def recoverLdxpSameUserUsedRedemptionTx (ledger : LdxpLedger) : Option LdxpTopupSession :=
  if session.workerCardKey = .blank then none
  else
    match ledger.bank.codeOf session.workerCardKey.val with
    | none => none
    | some redemption =>
      if redemption.status = .used ∧ redemption.usedUserId = session.userId ∧
          ldxpRecoveredRedemptionHasCurrentSessionTopUpTx session ledger redemption then
        some
          { session with
            redemptionId := redemption.id
            redeemedTime :=
              if 0 < redemption.redeemedTime then redemption.redeemedTime
              else session.redeemedTime }
      else none

/-- The redeem phase with a card. -/
def redeemCardPhase (ledger : LdxpLedger) : RedeemPhase :=
  let phase := redeemLdxpSessionCardTx env call session ledger
  match phase.error with
  | none => phase
  | some err =>
    let session := { session with redemptionId := 0, topupId := 0 }
    match if err = .redeem .used then
        recoverLdxpSameUserUsedRedemptionTx session phase.ledger else none with
    | some recovered => ⟨none, none, recovered, phase.ledger⟩
    | none => ⟨some err, none, session, phase.ledger⟩

/-- The redeem phase of a top-up. -/
def redeemPhase (ledger : LdxpLedger) : RedeemPhase :=
  if call.mailMatchRequired then redeemCardPhase env call session ledger
  else directTopUpLdxpSessionTx env call session ledger

end Card

/-! ## The transaction -/

section Verify

variable (env : LdxpEnv) (db : LdxpDb) (call : LdxpVerifyCall)

/-- The mail that a session is checked against. -/
def mailOf (session : LdxpTopupSession) : Option LdxpMailEvent :=
  if call.mailMatchRequired then getLdxpVerifyMailEventTx db session call.preferredEvent else none

/-- The checks of the fields of a session. -/
def checkLdxpFields (session : LdxpTopupSession) : Except LdxpVerifyFieldError Unit :=
  if call.mailMatchRequired then verifyLdxpSessionFields env session (mailOf db call session)
  else verifyLdxpWorkerPaidFields env session

/-- All checks of a session: its fields, and that no successful session has the same numbers. -/
def checkLdxpSession (session : LdxpTopupSession) : Except LdxpVerifyFieldError Unit := do
  checkLdxpFields env db call session
  rejectDuplicateSuccessfulLdxpSessionTx db session (mailOf db call session)

/-- The row of a top-up after its redeem phase. -/
def RedeemPhase.row (phase : RedeemPhase) (verified : LdxpTopupSession) (now : Int) :
    LdxpTopupSession :=
  match phase.error with
  | none => verified.markSuccess phase.session now
  | some _ => verified.markRedeemFailed phase.session now

/-- What the call returns after the redeem phase of a top-up. -/
def RedeemPhase.result (phase : RedeemPhase) : LdxpVerifyResult :=
  match phase.error with
  | none => ⟨true, true, .success, none⟩
  | some err =>
    ⟨true, false, .redeemFailed, some ⟨.redeemFailed, trimSpace (err.message env)⟩⟩

/-- The transaction of `tryVerifyAndRedeemLdxpSession`. -/
def verifyLdxpSessionTx : Except LdxpError (VerifyOutcome × LdxpDb) :=
  let sessionId := trimSpace call.sessionId
  if sessionId = "" then .error .invalidData
  else
    match db.sessions.get? sessionId with
    | none => .error .recordNotFound
    | some session =>
      if isLdxpSessionAlreadyRedeemed session then
        .ok (⟨.answer ⟨true, true, .success, none⟩, none⟩, db)
      else if call.mailMatchRequired ∧ mailOf db call session = none ∧
          hasLdxpMailAttachment session = false then
        .ok (⟨.answer ⟨false, false, session.status,
          some ⟨.pending, "waiting for matching ldxp mail event"⟩⟩, none⟩, db)
      else
        match checkLdxpSession env db call session with
        | .error err =>
          .ok (⟨.answer ⟨false, false, .verifyFailed, some err⟩, none⟩,
            db.saveSession (session.markVerifyFailed (mailOf db call session) call.now))
        | .ok () =>
          let verified := session.markVerified (mailOf db call session) call.now
          if session.purpose = .valuePackage then
            .ok (⟨.settle verified, none⟩, db.saveSession verified)
          else
            let phase := redeemPhase env call verified db.ledger
            .ok (⟨.answer (phase.result env), phase.credit⟩,
              (db.withLedger phase.ledger).saveSession (phase.row verified call.now))

/-- A session that has passed the checks of a call. -/
structure Passed (session : LdxpTopupSession) : Prop where
  id : trimSpace call.sessionId ≠ ""
  get : db.sessions.get? (trimSpace call.sessionId) = some session
  unpaid : isLdxpSessionAlreadyRedeemed session = false
  checks : checkLdxpSession env db call session = .ok ()

variable {session : LdxpTopupSession}

lemma Passed.sessionId (h : Passed env db call session) :
    session.sessionId = trimSpace call.sessionId :=
  Table.key_of_get? h.get

lemma Passed.fields (h : Passed env db call session) :
    session.workerOrderNo ≠ .blank ∧ isPaidText session.workerStatusText = true := by
  obtain ⟨_, hfields, -⟩ := bind_eq_ok.mp h.checks
  unfold checkLdxpFields at hfields
  split_ifs at hfields
  · exact verifyLdxpSessionFields_ok hfields
  · exact verifyLdxpWorkerPaidFields_ok hfields

/-- What the transaction can do. -/
inductive VerifyStep : VerifyOutcome → LdxpDb → Prop where
  /-- The session is paid out already, or its mail has not come. -/
  | kept (result : LdxpVerifyResult) : VerifyStep ⟨.answer result, none⟩ db
  | failed {session : LdxpTopupSession} {err : LdxpVerifyFieldError}
      (hget : db.sessions.get? (trimSpace call.sessionId) = some session)
      (hunpaid : isLdxpSessionAlreadyRedeemed session = false) :
      VerifyStep ⟨.answer ⟨false, false, .verifyFailed, some err⟩, none⟩
        (db.saveSession (session.markVerifyFailed (mailOf db call session) call.now))
  | settling {session : LdxpTopupSession} (hpassed : Passed env db call session)
      (hpurpose : session.purpose = .valuePackage) :
      VerifyStep ⟨.settle (session.markVerified (mailOf db call session) call.now), none⟩
        (db.saveSession (session.markVerified (mailOf db call session) call.now))
  | redeemed {session verified : LdxpTopupSession} {phase : RedeemPhase}
      (hpassed : Passed env db call session) (hpurpose : session.purpose ≠ .valuePackage)
      (hverified : verified = session.markVerified (mailOf db call session) call.now)
      (hphase : phase = redeemPhase env call verified db.ledger) :
      VerifyStep ⟨.answer (phase.result env), phase.credit⟩
        ((db.withLedger phase.ledger).saveSession (phase.row verified call.now))

variable {env db call}

lemma verifyLdxpSessionTx_step {outcome : VerifyOutcome} {db' : LdxpDb}
    (h : verifyLdxpSessionTx env db call = .ok (outcome, db')) :
    VerifyStep env db call outcome db' := by
  unfold verifyLdxpSessionTx at h
  dsimp only at h
  by_cases hblank : trimSpace call.sessionId = ""
  · rw [if_pos hblank] at h
    cases h
  rw [if_neg hblank] at h
  split at h
  · cases h
  next session hget =>
    by_cases hpaid : isLdxpSessionAlreadyRedeemed session = true
    · rw [if_pos hpaid] at h
      cases h
      exact .kept _
    rw [if_neg hpaid] at h
    by_cases hpending : call.mailMatchRequired ∧ mailOf db call session = none ∧
        hasLdxpMailAttachment session = false
    · rw [if_pos hpending] at h
      cases h
      exact .kept _
    rw [if_neg hpending] at h
    have hunpaid : isLdxpSessionAlreadyRedeemed session = false := by simpa using hpaid
    split at h
    next err hcheck =>
      cases h
      exact .failed hget hunpaid
    next hcheck =>
      have hpassed : Passed env db call session := ⟨hblank, hget, hunpaid, hcheck⟩
      split_ifs at h with hpurpose
      · cases h
        exact .settling hpassed hpurpose
      · cases h
        exact .redeemed hpassed hpurpose rfl rfl

end Verify

/-! ## Settling a value package -/

/-- The rest of a call after the verification of a value package: its next transaction. -/
inductive Settlement where
  /-- Look up the order of the session. -/
  | link (session : LdxpTopupSession)
  /-- `CompleteValuePackageOrder`. -/
  | complete (session : LdxpTopupSession) (tradeNo : String)
  | markFailed (session : LdxpTopupSession)
  | markSuccess (session : LdxpTopupSession)
  deriving DecidableEq

/-- The session that is settled. -/
def Settlement.session : Settlement → LdxpTopupSession
  | .link session => session
  | .complete session _ => session
  | .markFailed session => session
  | .markSuccess session => session

/-- `ldxpLinkedValuePackageOrder` without its check. -/
def linkedOrder (db : LdxpDb) (session : LdxpTopupSession) : Option SubscriptionOrder :=
  if session.purpose ≠ .valuePackage ∨ session.subscriptionOrderId ≤ 0 then none
  else db.ledger.bank.shop.orders.rows.find? fun order =>
    db.orderIdOf order.tradeNo = session.subscriptionOrderId

/-- `isLdxpLinkedValuePackageOrderMatch`, for an order with the id that the session names. -/
def isLdxpLinkedValuePackageOrderMatch (session : LdxpTopupSession) (order : SubscriptionOrder) :
    Bool :=
  order.userId = session.userId ∧ order.planId = session.subscriptionPlanId ∧
    order.money = session.money ∧ order.paymentProvider = "ldxp" ∧ order.paymentMethod = "ldxp" ∧
    isBlank order.tradeNo = false

def isLdxpValuePackageSettlementBusinessError (err : ShopError) : Bool :=
  err = .orderNotFound ∨ err = .paymentMethodMismatch ∨ err = .orderStatusInvalid ∨
    err = .completedSubscriptionNotFound ∨
    ["tradeNo is empty", "order plan is not value package", "购买高级套餐需要确认覆盖当前低级套餐",
      "当前已有更高等级套餐未过期，暂不能购买低等级套餐",
      "completed order missing user subscription id"].any (containsText (trimSpace err.message))

/-- What a transaction of the settlement leaves. -/
structure SettleOutcome where
  db : LdxpDb
  next : Option Settlement
  credit : Option LdxpCredit

/-- The clock readings of a settlement. -/
structure SettleTimes where
  now : Int
  sale : SaleTimes

/-- `UPDATE ldxp_topup_sessions … WHERE id = ?`. -/
def LdxpDb.updateSession (db : LdxpDb) (sessionId : String)
    (set : LdxpTopupSession → LdxpTopupSession) : LdxpDb :=
  (db.sessions.get? sessionId).elim db fun row => db.saveSession (set row)

/-- The order with the trade number waits for its payment. -/
def LdxpDb.isPending (db : LdxpDb) (tradeNo : String) : Bool :=
  (db.ledger.bank.shop.orders.get? tradeNo).any fun order => order.status = .pending

/-- One transaction of `settleLdxpValuePackageSession`. -/
def settleStep (env : LdxpEnv) (db : LdxpDb) (times : SettleTimes) : Settlement → SettleOutcome
  | .link session =>
    match (linkedOrder db session).filter (isLdxpLinkedValuePackageOrderMatch session) with
    -- "linked value package order missing" or "linked value package order mismatch"
    | none =>
      ⟨db.updateSession session.sessionId (·.markRedeemFailed session times.now), none, none⟩
    | some order => ⟨db, some (.complete session order.tradeNo), none⟩
  | .complete session tradeNo =>
    match completeValuePackageOrder env.shop db.ledger.bank.shop times.sale tradeNo "ldxp" "ldxp"
      session.confirmedCover with
    | .ok (_, shop) =>
      ⟨db.withLedger (db.ledger.withShop shop), some (.markSuccess session),
        -- An order that was settled before is not paid out again.
        if db.isPending tradeNo then some (.package tradeNo) else none⟩
    | .error err =>
      ⟨db, if isLdxpValuePackageSettlementBusinessError err then some (.markFailed session)
        else none, none⟩
  | .markFailed session =>
    ⟨db.updateSession session.sessionId (·.markRedeemFailed session times.now), none, none⟩
  | .markSuccess session =>
    ⟨db.updateSession session.sessionId (·.markSuccess session times.now), none, none⟩

/-- What a transaction of the settlement can do. -/
inductive SettleStep (env : LdxpEnv) (db : LdxpDb) (times : SettleTimes) :
    Settlement → SettleOutcome → Prop where
  | unlinked (session : LdxpTopupSession) :
      SettleStep env db times (.link session)
        ⟨db.updateSession session.sessionId (·.markRedeemFailed session times.now), none, none⟩
  | linked {session : LdxpTopupSession} {order : SubscriptionOrder}
      (horder : linkedOrder db session = some order) :
      SettleStep env db times (.link session)
        ⟨db, some (.complete session order.tradeNo), none⟩
  | completed {session : LdxpTopupSession} {tradeNo : String} {shop : Shop} :
      SettleStep env db times (.complete session tradeNo)
        ⟨db.withLedger (db.ledger.withShop shop), some (.markSuccess session),
          if db.isPending tradeNo then some (.package tradeNo) else none⟩
  | rejected (session : LdxpTopupSession) (tradeNo : String) :
      SettleStep env db times (.complete session tradeNo) ⟨db, some (.markFailed session), none⟩
  | aborted (session : LdxpTopupSession) (tradeNo : String) :
      SettleStep env db times (.complete session tradeNo) ⟨db, none, none⟩
  | failed (session : LdxpTopupSession) :
      SettleStep env db times (.markFailed session)
        ⟨db.updateSession session.sessionId (·.markRedeemFailed session times.now), none, none⟩
  | succeeded (session : LdxpTopupSession) :
      SettleStep env db times (.markSuccess session)
        ⟨db.updateSession session.sessionId (·.markSuccess session times.now), none, none⟩

lemma settleStep_step (env : LdxpEnv) (db : LdxpDb) (times : SettleTimes)
    (settlement : Settlement) :
    SettleStep env db times settlement (settleStep env db times settlement) := by
  cases settlement with
  | link session =>
    rw [settleStep]
    split
    · exact .unlinked session
    next order horder => exact .linked (Option.filter_eq_some_iff.mp horder).1
  | complete session tradeNo =>
    rw [settleStep]
    split
    · exact .completed
    · split_ifs
      · exact .rejected session tradeNo
      · exact .aborted session tradeNo
  | markFailed session => exact .failed session
  | markSuccess session => exact .succeeded session

/-! ## Whole calls -/

/-- Where the process may stop in the settlement of a value package: after which transaction. -/
inductive CrashPoint where
  | afterVerify
  | afterLink
  | afterCompletion
  deriving DecidableEq

/-- A call of `tryVerifyAndRedeemLdxpSession` that may be cut short. A transaction that fails in the
database ends the call like a crash before it. -/
structure LdxpCall where
  verify : LdxpVerifyCall
  settle : SettleTimes
  crash : Option CrashPoint

/-- The number of transactions after the verification. -/
def LdxpCall.settleSteps (call : LdxpCall) : Nat :=
  match call.crash with
  | some .afterVerify => 0
  | some .afterLink => 1
  | some .afterCompletion => 2
  | none => 3

/-- The next transactions of a settlement, and what they have booked. -/
def runSettlement (env : LdxpEnv) (times : SettleTimes) :
    Nat → Settlement → LdxpDb → LdxpDb × List LdxpCredit
  | 0, _, db => (db, [])
  | steps + 1, settlement, db =>
    let outcome := settleStep env db times settlement
    match outcome.next with
    | none => (outcome.db, outcome.credit.toList)
    | some next =>
      let rest := runSettlement env times steps next outcome.db
      (rest.1, outcome.credit.toList ++ rest.2)

/-- The tables after a call, and what it has booked. -/
def runLdxpCall (env : LdxpEnv) (db : LdxpDb) (call : LdxpCall) : LdxpDb × List LdxpCredit :=
  match verifyLdxpSessionTx env db call.verify with
  | .error _ => (db, [])
  | .ok (⟨.answer _, credit⟩, db) => (db, credit.toList)
  | .ok (⟨.settle session, _⟩, db) =>
    runSettlement env call.settle call.settleSteps (.link session) db

section Call

variable {env : LdxpEnv} {db db' : LdxpDb} {call : LdxpCall} {credit : Option LdxpCredit}

lemma runLdxpCall_error {err : LdxpError}
    (h : verifyLdxpSessionTx env db call.verify = .error err) :
    runLdxpCall env db call = (db, []) := by
  rw [runLdxpCall, h]

lemma runLdxpCall_answer {result : LdxpVerifyResult}
    (h : verifyLdxpSessionTx env db call.verify = .ok (⟨.answer result, credit⟩, db')) :
    runLdxpCall env db call = (db', credit.toList) := by
  rw [runLdxpCall, h]

lemma runLdxpCall_settle {session : LdxpTopupSession}
    (h : verifyLdxpSessionTx env db call.verify = .ok (⟨.settle session, credit⟩, db')) :
    runLdxpCall env db call =
      runSettlement env call.settle call.settleSteps (.link session) db' := by
  rw [runLdxpCall, h]

end Call

/-! ## A small shop -/

/-- Surroundings in which an amount is worth `500` for each unit and has to be paid exactly. -/
def sampleLdxpEnv : LdxpEnv where
  shop := sampleShopEnv
  isPaidAmountAcceptable actual expected := actual = expected
  amountCents
    | .finite unscaled scale => unscaled * 100 / 10 ^ scale
    | _ => 0
  quotaOfAmount amount := amount * 500
  showMoney
    | .finite unscaled scale => toString unscaled ++ "e-" ++ toString scale
    | _ => "NaN"
  databaseError := "database is locked"

/-- A session of the user `1` whose worker has reported the order as paid. -/
def sampleLdxpSession (sessionId orderNo : String) : LdxpTopupSession where
  id := 1
  sessionId := sessionId
  userId := 1
  amount := 10
  money := .finite 10 0
  purpose := .topup
  subscriptionOrderId := 0
  subscriptionPlanId := 0
  confirmedCover := false
  status := .workerPaid
  workerId := .of "w"
  workerOrderNo := .of orderNo
  workerAmount := .finite 10 0
  workerCardKey := .of ""
  workerStatusText := .of "已付款"
  mailMessageId := .blank
  mailOrderNo := .blank
  mailAmount := .finite 0 0
  mailCardKey := .blank
  verifiedTime := 0
  redeemedTime := 0
  topupId := 0
  redemptionId := 0
  updatedTime := 0
  expiredTime := 1000
  paidWatchClaimedTime := 0

/-- A call without the mail requirement. -/
def sampleVerify (sessionId : String) (fault : Option LdxpFault) : LdxpVerifyCall :=
  ⟨sessionId, none, false, true, 100, 100, ⟨100, 100, 100⟩, fault⟩

end Yunbay
