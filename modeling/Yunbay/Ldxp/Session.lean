import Yunbay.Redemption.Redeem

/-!
# LDXP sessions

A user pays for a top-up or a value package on a page of the LDXP shop. A session follows the
payment: a worker claims it, shows the page of an order, and reports the order as paid; the mail of
the shop is matched to it; and a verification then pays out what was bought.

This module has all calls but the verification. Each of them is an update that is conditional on the
status of the session. Every call trims the texts it stores, so they have the type `Trimmed`. -/

namespace Yunbay

open Except

/-! ## Texts -/

/-- A text without white space at its ends. -/
def Trimmed : Type := { text : String // trimSpace text = text }
  deriving DecidableEq

namespace Trimmed

/-- `strings.TrimSpace`, with what it guarantees. -/
def of (text : String) : Trimmed := ⟨trimSpace text, trimSpace_trimSpace text⟩

def blank : Trimmed := of ""

end Trimmed

/-- `strings.Contains`. -/
def containsText (text part : String) : Bool := decide (part.toList <:+: text.toList)

/-- The texts by which the shop calls an order paid. -/
def isPaidText (text : Trimmed) : Bool :=
  containsText text.val "已付款" || containsText text.val "成功"

lemma isPaidText_blank : isPaidText .blank = false := by decide +kernel

/-- `money > 0`, which does not hold of a value that is not a number. -/
def Money.gtZero : Money → Bool
  | .posInf => true
  | .finite unscaled _ => 0 < unscaled
  | _ => false

/-! ## The tables -/

inductive LdxpStatus where
  | created
  | workerClaimed
  | qrReady
  | workerPaid
  | verified
  | redeemed
  | success
  | canceled
  | expired
  | workerFailed
  | mailTimeout
  | verifyFailed
  | redeemFailed
  deriving DecidableEq

/-- `ldxp_topup_sessions.purpose`, whose default is a top-up. -/
inductive LdxpPurpose where
  | topup
  | valuePackage
  deriving DecidableEq

/-- An order that a worker pays. -/
structure LdxpTopupSession where
  id : Int
  sessionId : String
  userId : Int
  amount : Int
  money : Money
  purpose : LdxpPurpose
  subscriptionOrderId : Int
  subscriptionPlanId : Int
  confirmedCover : Bool
  status : LdxpStatus
  workerId : Trimmed
  workerOrderNo : Trimmed
  workerAmount : Money
  workerCardKey : Trimmed
  workerStatusText : Trimmed
  mailMessageId : Trimmed
  mailOrderNo : Trimmed
  mailAmount : Money
  mailCardKey : Trimmed
  verifiedTime : Int
  redeemedTime : Int
  topupId : Int
  redemptionId : Int
  updatedTime : Int
  expiredTime : Int
  paidWatchClaimedTime : Int
  deriving DecidableEq

/-- A mail of the shop. -/
structure LdxpMailEvent where
  id : Int
  messageId : Option Trimmed
  orderNo : Trimmed
  amount : Money
  cardKey : Trimmed
  matchedSessionId : String
  processed : Bool

/-- When a top-up was created and completed. -/
structure TopUpTimes where
  createTime : Int
  completeTime : Int

/-- The tables in which a payment is booked. -/
structure LdxpLedger where
  bank : Bank
  /-- The times of a top-up, for the trade numbers of the codes and of LDXP. -/
  topUpTimes : String → TopUpTimes

/-- The tables of LDXP and the ledger. A session is identified by its session id, which is unique
like its number. -/
structure LdxpDb where
  ledger : LdxpLedger
  sessions : Table String LdxpTopupSession LdxpTopupSession.sessionId
  events : Table Int LdxpMailEvent LdxpMailEvent.id
  /-- `subscription_orders.id`, for the trade numbers of the orders. -/
  orderIdOf : String → Int

/-- What the calls take from their surroundings. The amounts are floating-point numbers, so that the
functions of the source that compute with them are given by their values. -/
structure LdxpEnv where
  shop : ShopEnv
  /-- `isLdxpPaidAmountAcceptable`. -/
  isPaidAmountAcceptable : (actual expected : Money) → Bool
  /-- `ldxpAmountCents`. -/
  amountCents : Money → Int
  /-- `session.Amount * common.QuotaPerUnit`, rounded down. -/
  quotaOfAmount : Int → Int
  /-- An amount with two decimals, as `%.2f` prints it. -/
  showMoney : Money → String
  /-- The text of an error of the database. -/
  databaseError : String

inductive LdxpError where
  | invalidData
  | invalidRequest (text : String)
  | notCancelable (status : LdxpStatus)
  | recordNotFound

namespace LdxpDb

variable (db : LdxpDb)

@[simps]
def saveSession (session : LdxpTopupSession) : LdxpDb :=
  { db with sessions := db.sessions.put session }

lemma get?_saveSession {db : LdxpDb} {session : LdxpTopupSession} {sessionId : String}
    (h : session.sessionId = sessionId) :
    (db.saveSession session).sessions.get? sessionId = some session := by
  subst h
  exact Table.get?_put_self db.sessions session

@[simps]
def saveEvent (event : LdxpMailEvent) : LdxpDb := { db with events := db.events.put event }

@[simps]
def withLedger (ledger : LdxpLedger) : LdxpDb := { db with ledger }

/-- `UPDATE … WHERE session_id = ? AND …`, if there is a row that it changes. -/
def updateWhere (sessionId : String) (cond : LdxpTopupSession → Prop) [DecidablePred cond]
    (set : LdxpTopupSession → LdxpTopupSession) : Option LdxpDb :=
  match db.sessions.get? sessionId with
  | none => none
  | some session => if cond session then some (db.saveSession (set session)) else none

lemma updateWhere_eq_some {db db' : LdxpDb} {sessionId : String} {cond : LdxpTopupSession → Prop}
    [DecidablePred cond] {set : LdxpTopupSession → LdxpTopupSession}
    (h : db.updateWhere sessionId cond set = some db') :
    ∃ session, db.sessions.get? sessionId = some session ∧ cond session ∧
      db' = db.saveSession (set session) := by
  unfold updateWhere at h
  split at h
  · cases h
  next session hget =>
    split_ifs at h with hcond
    exact ⟨session, hget, hcond, (Option.some.inj h).symm⟩

end LdxpDb

/-! ## Sessions and workers -/

/-- What the two calls that create a session fill in. -/
structure NewLdxpSession where
  sessionId : String
  userId : Int
  amount : Int
  money : Money
  purpose : LdxpPurpose
  subscriptionOrderId : Int
  subscriptionPlanId : Int
  confirmedCover : Bool
  now : Int
  ttlSeconds : Int

/-- The row that `CreateLdxpTopupSession` and `CreateLdxpValuePackageSession` insert. -/
def NewLdxpSession.row (new : NewLdxpSession) (id : Int) : LdxpTopupSession where
  id := id
  sessionId := new.sessionId
  userId := new.userId
  amount := new.amount
  money := new.money
  purpose := new.purpose
  subscriptionOrderId := new.subscriptionOrderId
  subscriptionPlanId := new.subscriptionPlanId
  confirmedCover := new.confirmedCover
  status := .created
  workerId := .blank
  workerOrderNo := .blank
  workerAmount := .finite 0 0
  workerCardKey := .blank
  workerStatusText := .blank
  mailMessageId := .blank
  mailOrderNo := .blank
  mailAmount := .finite 0 0
  mailCardKey := .blank
  verifiedTime := 0
  redeemedTime := 0
  topupId := 0
  redemptionId := 0
  updatedTime := new.now
  expiredTime := new.now + new.ttlSeconds
  paidWatchClaimedTime := 0

/-- `InsertLdxpTopupSession`, which fails if the session id is taken. -/
def insertLdxpTopupSession (db : LdxpDb) (new : NewLdxpSession) : Option LdxpDb :=
  match db.sessions.get? new.sessionId with
  | some _ => none
  | none =>
    some (db.saveSession (new.row ((db.sessions.rows.map LdxpTopupSession.id).foldl max 0 + 1)))

/-- `isLdxpCancelableStatus`: nobody has paid yet. The same statuses can expire. -/
def isLdxpCancelableStatus : LdxpStatus → Bool
  | .created | .workerClaimed | .qrReady => true
  | _ => false

def cancelLdxpTopupSession (db : LdxpDb) (sessionId : String) (userId now : Int) :
    Except LdxpError LdxpDb :=
  match (db.sessions.get? sessionId).filter fun session => session.userId = userId with
  | none => .error .recordNotFound
  | some session => do
    check (isLdxpCancelableStatus session.status) (.notCancelable session.status)
    (db.updateWhere sessionId
      (fun session => session.userId = userId ∧ isLdxpCancelableStatus session.status)
      fun session => { session with status := .canceled, updatedTime := now }).elim
        (.error .recordNotFound) .ok

/-- What `MarkExpiredLdxpTopupSessions` does to a row. -/
def LdxpTopupSession.expireAt (now : Int) (session : LdxpTopupSession) : LdxpTopupSession :=
  if isLdxpCancelableStatus session.status ∧ session.expiredTime ≤ now then
    { session with status := .expired, updatedTime := now }
  else session

lemma LdxpTopupSession.sessionId_expireAt (now : Int) (session : LdxpTopupSession) :
    (session.expireAt now).sessionId = session.sessionId := by
  unfold LdxpTopupSession.expireAt
  split_ifs
  · rfl
  · rfl

def markExpiredLdxpTopupSessions (db : LdxpDb) (now : Int) : LdxpDb :=
  { db with
    sessions := db.sessions.mapRows (·.expireAt now) (LdxpTopupSession.sessionId_expireAt now) }

/-- `claimSelectedLdxpTopupSession`, for the candidate that `ClaimNextLdxpTopupSession` has read. -/
def claimSelectedLdxpTopupSession (db : LdxpDb) (candidate workerId : String) (now : Int) :
    Except LdxpError LdxpDb := do
  let workerId := Trimmed.of workerId
  check (workerId ≠ .blank) (.invalidRequest "missing worker")
  (db.updateWhere candidate (fun session => session.status = .created ∧ now < session.expiredTime)
    fun session => { session with status := .workerClaimed, workerId, updatedTime := now }).elim
      (.error .recordNotFound) .ok

/-- The update of `ClaimNextLdxpPaidWatchSession`, for the candidate that it has read. -/
def claimPaidWatchSession (db : LdxpDb) (candidate workerId : String) (now : Int) :
    Except LdxpError LdxpDb := do
  let workerId := Trimmed.of workerId
  check (workerId ≠ .blank) (.invalidRequest "missing worker")
  (db.updateWhere candidate
    (fun session =>
      session.status = .qrReady ∧ session.workerId = workerId ∧ now < session.expiredTime)
    fun session => { session with paidWatchClaimedTime := now }).elim
      (.error .recordNotFound) .ok

def validateLdxpStringMax (field value : String) (max : Nat) : Except LdxpError Unit :=
  check ((trimSpace value).utf8ByteSize ≤ max) (.invalidRequest (field ++ " too large"))

def ldxpSafeQRDataPrefixes : List String :=
  ["data:image/png;base64,", "data:image/jpeg;base64,", "data:image/jpg;base64,",
    "data:image/webp;base64,", "data:image/gif;base64,"]

def isSafeLdxpQRCodeSource (qrCode : String) : Bool :=
  (ldxpSafeQRDataPrefixes ++ ["https://"]).any fun start =>
    start.toList.isPrefixOf qrCode.toList

/-- A worker that reports on a session that was canceled gets no error, and changes nothing. -/
def ignoreIfCanceled (db : LdxpDb) (sessionId : String) (workerId : Trimmed) :
    Option LdxpDb → Except LdxpError LdxpDb
  | some db' => .ok db'
  | none =>
    match db.sessions.get? sessionId with
    | none => .error .recordNotFound
    | some session =>
      if session.workerId = workerId ∧ session.status = .canceled then .ok db
      else .error .recordNotFound

/-- The report of a QR code. -/
structure LdxpWorkerQrPayload where
  workerId : String
  workerOrderNo : String
  workerAmount : Money
  qrCode : String

def recordLdxpQr (db : LdxpDb) (sessionId : String) (payload : LdxpWorkerQrPayload) (now : Int) :
    Except LdxpError LdxpDb := do
  let workerId := Trimmed.of payload.workerId
  check (workerId ≠ .blank) (.invalidRequest "missing worker")
  let workerOrderNo := Trimmed.of payload.workerOrderNo
  check (workerOrderNo ≠ .blank) (.invalidRequest "missing worker order no")
  validateLdxpStringMax "qr_code" payload.qrCode (512 * 1024)
  check (isSafeLdxpQRCodeSource (trimSpace payload.qrCode))
    (.invalidRequest "invalid qr code source")
  ignoreIfCanceled db sessionId workerId (db.updateWhere sessionId
    (fun session => session.workerId = workerId ∧
      (session.status = .workerClaimed ∨ session.status = .qrReady) ∧
      (session.workerOrderNo = workerOrderNo ∨ session.workerOrderNo = .blank))
    fun session =>
      { session with
        status := .qrReady
        workerAmount := payload.workerAmount
        workerOrderNo
        updatedTime := now })

/-- The report of a payment. -/
structure LdxpWorkerResultPayload where
  workerId : String
  workerOrderNo : String
  workerAmount : Money
  workerCardKey : String
  workerStatusText : String

/-- The row after a worker has reported the order as paid. -/
def LdxpTopupSession.paidBy (session : LdxpTopupSession) (payload : LdxpWorkerResultPayload)
    (now : Int) : LdxpTopupSession :=
  { session with
    status := .workerPaid
    workerOrderNo := .of payload.workerOrderNo
    workerAmount := payload.workerAmount
    workerCardKey := .of payload.workerCardKey
    workerStatusText := .of payload.workerStatusText
    updatedTime := now }

/-- `RecordLdxpWorkerResult` up to the verification that follows it. -/
def recordLdxpWorkerResult (db : LdxpDb) (sessionId : String) (payload : LdxpWorkerResultPayload)
    (now : Int) : Except LdxpError LdxpDb := do
  let workerId := Trimmed.of payload.workerId
  check (workerId ≠ .blank) (.invalidRequest "missing worker")
  let workerOrderNo := Trimmed.of payload.workerOrderNo
  check (workerOrderNo ≠ .blank) (.invalidRequest "missing worker order no")
  validateLdxpStringMax "worker_card_key" payload.workerCardKey 255
  (db.updateWhere sessionId
    (fun session => session.workerId = workerId ∧ session.status = .qrReady ∧
      session.workerOrderNo = workerOrderNo)
    (·.paidBy payload now)).elim (.error .recordNotFound) .ok

def recordLdxpWorkerError (db : LdxpDb) (sessionId workerId message snapshotPath : String)
    (now : Int) : Except LdxpError LdxpDb := do
  let workerId := Trimmed.of workerId
  check (workerId ≠ .blank) (.invalidRequest "missing worker")
  validateLdxpStringMax "error_message" message 2048
  validateLdxpStringMax "snapshot_path" snapshotPath 512
  ignoreIfCanceled db sessionId workerId (db.updateWhere sessionId
    (fun session => session.workerId = workerId ∧
      (session.status = .workerClaimed ∨ session.status = .qrReady))
    fun session => { session with status := .workerFailed, updatedTime := now })

/-! ## Mail -/

/-- What a mail of the shop says. -/
structure LdxpParsedMail where
  messageId : String
  orderNo : String
  amount : Money
  cardKey : String

/-- `SaveLdxpMailEvent` for a mail that is not there yet. -/
def saveLdxpMailEvent (db : LdxpDb) (parsed : LdxpParsedMail) : LdxpDb :=
  let messageId := Trimmed.of parsed.messageId
  db.saveEvent
    { id := db.events.nextId 0
      messageId := if messageId = .blank then none else some messageId
      orderNo := .of parsed.orderNo
      amount := parsed.amount
      cardKey := .of parsed.cardKey
      matchedSessionId := ""
      processed := false }

def hasLdxpMailAttachment (session : LdxpTopupSession) : Bool :=
  session.mailOrderNo ≠ .blank ∨ session.mailCardKey ≠ .blank ∨ session.mailMessageId ≠ .blank

/-- The session that a mail about an order may belong to, `ORDER BY updated_time DESC, id DESC`. -/
def sessionOfOrder (db : LdxpDb) (orderNo : Trimmed) : Option LdxpTopupSession :=
  db.sessions.first?
    (fun session => session.workerOrderNo = orderNo ∧
      (session.status = .workerPaid ∨ session.status = .verifyFailed))
    fun session other => other.updatedTime < session.updatedTime ∨
      (session.updatedTime = other.updatedTime ∧ other.id < session.id)

/-- The checks of `TryMatchLdxpMailEvent` on a session without mail. -/
def checkLdxpMailMatch (env : LdxpEnv) (session : LdxpTopupSession) (event : LdxpMailEvent) :
    Except LdxpError Unit := do
  check (event.cardKey ≠ .blank) (.invalidRequest "missing ldxp mail card")
  check (session.workerCardKey = .blank ∨ session.workerCardKey = event.cardKey)
    (.invalidRequest "ldxp mail card mismatch")
  check (event.amount.leZero = false) (.invalidRequest "missing ldxp mail amount")
  check
    (¬(session.workerAmount.gtZero ∧
      env.amountCents session.workerAmount ≠ env.amountCents event.amount))
    (.invalidRequest "ldxp mail amount mismatch")
  check (event.processed = false ∧ event.matchedSessionId = "")
    (.invalidRequest "ldxp mail event already processed")

/-- The row with the mail attached. -/
def LdxpTopupSession.attachMail (session : LdxpTopupSession) (event : LdxpMailEvent) (now : Int) :
    LdxpTopupSession :=
  { session with
    mailMessageId := event.messageId.getD .blank
    mailOrderNo := event.orderNo
    mailAmount := event.amount
    mailCardKey := event.cardKey
    updatedTime := now }

/-- `TryMatchLdxpMailEvent` up to the verification that follows it. -/
def tryMatchLdxpMailEvent (env : LdxpEnv) (db : LdxpDb) (eventId now : Int) :
    Except LdxpError LdxpDb :=
  match db.events.get? eventId with
  | none => .error .recordNotFound
  | some event => do
    check (event.orderNo ≠ .blank) (.invalidRequest "missing mail order no")
    match sessionOfOrder db event.orderNo with
    | none => .error .recordNotFound
    | some session =>
      if hasLdxpMailAttachment session then do
        -- The mail may be the one that is attached.
        check (event.processed ∧ event.matchedSessionId = session.sessionId)
          (.invalidRequest "ldxp mail already attached")
        pure db
      else do
        checkLdxpMailMatch env session event
        pure ((db.saveSession (session.attachMail event now)).saveEvent
          { event with matchedSessionId := session.sessionId, processed := true })

end Yunbay
