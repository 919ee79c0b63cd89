import Yunbay.Ldxp.RedeemFailed

/-!
# LDXP sessions are credited once

A verification credits a session by a card, a top-up or a package order. `rejectDuplicate…` keeps a
second session with the same order number or card key from being credited, but it looks only at
sessions that are marked as successful. A package order is completed before the mark, in a
transaction of its own, so that a stop in between leaves a credited session that no later check
sees. So does a direct top-up that fails half way.
-/

namespace Yunbay

open Except Run Table

/-! ## Numbers of sessions -/

namespace LdxpTopupSession

/-- The sessions carry the same order number or the same card key. -/
def SharesNumber (session other : LdxpTopupSession) : Prop :=
  (∃ number ∈ session.orderNos, number ≠ .blank ∧ number ∈ other.orderNos) ∨
    ∃ key ∈ session.cardKeys, key ≠ .blank ∧ key ∈ other.cardKeys

lemma SharesNumber.symm {session other : LdxpTopupSession} (h : session.SharesNumber other) :
    other.SharesNumber session := by
  rcases h with ⟨number, hmem, hblank, hother⟩ | ⟨key, hmem, hblank, hother⟩
  · exact .inl ⟨number, hother, hblank, hmem⟩
  · exact .inr ⟨key, hother, hblank, hmem⟩

/-- A column that is filled in keeps its value or takes that of the mail. -/
lemma fillText_mem (old : Trimmed) (new : Option Trimmed) :
    fillText old new ∈ old :: new.toList := by
  unfold fillText
  split_ifs
  · cases new with
    | none | some => simp
  · exact List.mem_cons_self

/-- What a list has after its last column was filled in was there, or is in the mail. -/
lemma mem_of_filled {value first old : Trimmed} {event : Option LdxpMailEvent}
    {column : LdxpMailEvent → Trimmed} (h : value ∈ [first, fillText old (event.map column)]) :
    value ∈ [first, old] ++ event.toList.map column := by
  have hmail := fillText_mem old (event.map column)
  rcases List.mem_cons.mp h with rfl | h
  · simp
  · rw [List.mem_singleton.mp h]
    cases event with
    | none | some => simpa using Or.inr hmail

end LdxpTopupSession

/-- No successful session but the one with the id has a number of the session. -/
def LdxpDb.Unshared (db : LdxpDb) (id : String) (session : LdxpTopupSession) : Prop :=
  ∀ id' ≠ id, ∀ other, db.sessions.get? id' = some other → other.status = .success →
    ¬session.SharesNumber other

section Checks

variable {env : LdxpEnv} {db : LdxpDb} {call : LdxpVerifyCall} {session : LdxpTopupSession}

lemma rejectDuplicate_ok {code : LdxpVerifyCode} {what : String}
    {columns : LdxpTopupSession → List Trimmed} {value : Trimmed}
    (h : rejectDuplicateSuccessfulLdxpValueTx db session code what columns value = .ok ())
    (hvalue : value ≠ .blank) {id : String} (hid : id ≠ session.sessionId)
    {other : LdxpTopupSession} (hget : db.sessions.get? id = some other)
    (hstatus : other.status = .success) : value ∉ columns other := by
  intro hmem
  have hkey : other.sessionId = id := key_of_get? hget
  unfold rejectDuplicateSuccessfulLdxpValueTx at h
  rw [if_neg hvalue] at h
  split at h
  next hnone =>
    have hnot := first?_eq_none_iff.mp hnone other (mem_of_get? hget)
    simp [hkey, hid, hstatus, hmem] at hnot
  · cases h

/-- A session that has passed the checks shares no number with a successful one. -/
lemma Passed.unshared (h : Passed env db call session) :
    db.Unshared (trimSpace call.sessionId)
      (session.markVerified (mailOf db call session) call.now) := by
  obtain ⟨_, -, hduplicate⟩ := bind_eq_ok.mp h.checks
  obtain ⟨_, horders, hcards⟩ := bind_eq_ok.mp hduplicate
  rw [forM_eq_ok] at horders hcards
  intro id' hid other hget hstatus hshares
  rw [← h.sessionId] at hid
  rcases hshares with ⟨number, hmem, hblank, hother⟩ | ⟨key, hmem, hblank, hother⟩
  · have hchecked := horders number (LdxpTopupSession.mem_of_filled hmem)
    exact rejectDuplicate_ok hchecked hblank hid hget hstatus hother
  · have hchecked := hcards key (LdxpTopupSession.mem_of_filled hmem)
    exact rejectDuplicate_ok hchecked hblank hid hget hstatus hother

end Checks

/-! ## What a call does to the sessions -/

/-- What a call for a session can do to the sessions, and what it credits. -/
inductive CallEffect (db : LdxpDb) (id : String) : LdxpDb → List LdxpCredit → Prop where
  | same : CallEffect db id db []
  | unpaid {db' : LdxpDb} {row row' : LdxpTopupSession} (hget : db.sessions.get? id = some row)
      (hrow : row.status ≠ .success)
      (hother : ∀ id' ≠ id, db'.sessions.get? id' = db.sessions.get? id')
      (hget' : db'.sessions.get? id = some row') (hrow' : row'.status ≠ .success) :
      CallEffect db id db' []
  | paid {db' : LdxpDb} {row row' : LdxpTopupSession} {credits : List LdxpCredit}
      (hget : db.sessions.get? id = some row) (hrow : row.status ≠ .success)
      (hother : ∀ id' ≠ id, db'.sessions.get? id' = db.sessions.get? id')
      (hget' : db'.sessions.get? id = some row') (hrow' : row'.status = .success)
      (hunshared : db.Unshared id row') (honce : credits.length ≤ 1) :
      CallEffect db id db' credits

variable {session : LdxpTopupSession}

/-- A session that is not paid out is not successful. -/
lemma status_ne_success (h : isLdxpSessionAlreadyRedeemed session = false) :
    session.status ≠ .success := by
  intro hstatus
  simp [isLdxpSessionAlreadyRedeemed, hstatus] at h

variable {id : String}

lemma LdxpDb.get?_saveSession_of_ne {db : LdxpDb} (h : id ≠ session.sessionId) :
    (db.saveSession session).sessions.get? id = db.sessions.get? id :=
  get?_put_of_ne _ h.symm

variable {row : LdxpTopupSession}

lemma LdxpDb.updateSession_of_get? {db : LdxpDb} (h : db.sessions.get? id = some row)
    (set : LdxpTopupSession → LdxpTopupSession) :
    db.updateSession id set = db.saveSession (set row) := by
  unfold LdxpDb.updateSession
  rw [h]
  rfl

/-- What a settlement leaves of the session in `db`. -/
structure SettleEffect (db : LdxpDb) (session : LdxpTopupSession)
    (result : LdxpDb × List LdxpCredit) : Prop where
  other : ∀ id ≠ session.sessionId, result.1.sessions.get? id = db.sessions.get? id
  row : ∃ row, result.1.sessions.get? session.sessionId = some row ∧
    row.orderNos = session.orderNos ∧ row.cardKeys = session.cardKeys ∧
    (row.status ≠ .success ∧ result.2 = [] ∨ row.status = .success ∧ result.2.length ≤ 1)

section Settlement

variable {env : LdxpEnv} {times : SettleTimes} {db : LdxpDb}

lemma SettleEffect.same (hget : db.sessions.get? session.sessionId = some session)
    (hstatus : session.status ≠ .success) : SettleEffect db session (db, []) where
  other := fun _ _ => rfl
  row := ⟨session, hget, rfl, rfl, .inl ⟨hstatus, rfl⟩⟩

lemma SettleEffect.failed (db : LdxpDb) (session : LdxpTopupSession) (now : Int) :
    SettleEffect db session (db.saveSession (session.markRedeemFailed session now), []) where
  other := fun _ hid => LdxpDb.get?_saveSession_of_ne hid
  row := ⟨_, LdxpDb.get?_saveSession rfl, rfl, rfl, .inl ⟨nofun, rfl⟩⟩

/-- The completion of an order together with the mark of its session. -/
lemma complete_effect (hget : db.sessions.get? session.sessionId = some session)
    (hstatus : session.status ≠ .success) (tradeNo : String) :
    SettleEffect db session (runSettlement env times 2 (.complete session tradeNo) db) := by
  rw [runSettlement]
  have hstep := settleStep_step env db times (.complete session tradeNo)
  generalize settleStep env db times (.complete session tradeNo) = outcome at hstep ⊢
  cases hstep with
  | aborted => exact .same hget hstatus
  | rejected =>
    dsimp only [runSettlement, settleStep]
    rw [LdxpDb.updateSession_of_get? hget]
    exact .failed db session times.now
  | @completed _ _ shop =>
    dsimp only [runSettlement, settleStep]
    have hget' : (db.withLedger (db.ledger.withShop shop)).sessions.get? session.sessionId =
        some session := hget
    rw [LdxpDb.updateSession_of_get? hget']
    refine ⟨fun _ hid => LdxpDb.get?_saveSession_of_ne hid, _, LdxpDb.get?_saveSession rfl, rfl,
      rfl, .inr ⟨rfl, ?_⟩⟩
    -- One credit at most, for an order that was pending.
    split_ifs <;> simp

lemma settlement_effect {call : LdxpCall} (hcrash : call.crash ≠ some .afterCompletion)
    (hget : db.sessions.get? session.sessionId = some session)
    (hstatus : session.status ≠ .success) :
    SettleEffect db session (runSettlement env times call.settleSteps (.link session) db) := by
  have hsteps : call.settleSteps = 0 ∨
      ∃ more, call.settleSteps = more + 1 ∧ (more = 0 ∨ more = 2) := by
    unfold LdxpCall.settleSteps
    split <;> simp_all
  rcases hsteps with hnone | ⟨more, hmore, hcount⟩
  · rw [hnone]
    exact .same hget hstatus
  · rw [hmore, runSettlement]
    have hstep := settleStep_step env db times (.link session)
    generalize settleStep env db times (.link session) = outcome at hstep ⊢
    cases hstep with
    | unlinked =>
      rw [LdxpDb.updateSession_of_get? hget]
      exact .failed db session times.now
    | @linked _ order _ =>
      rcases hcount with rfl | rfl
      · exact .same hget hstatus
      · exact complete_effect hget hstatus order.tradeNo

end Settlement

section Call

variable {env : LdxpEnv} {db : LdxpDb} {call : LdxpVerifyCall}

lemma LdxpDb.Unshared.congr {session' : LdxpTopupSession} (h : db.Unshared id session)
    (horders : session'.orderNos = session.orderNos) (hcards : session'.cardKeys = session.cardKeys)
    : db.Unshared id session' := by
  intro id' hid other hget hstatus hshares
  apply h id' hid other hget hstatus
  unfold LdxpTopupSession.SharesNumber at hshares ⊢
  rwa [horders, hcards] at hshares

variable {verified : LdxpTopupSession}

lemma CallEffect.of_settle {result : LdxpDb × List LdxpCredit}
    (hpassed : Passed env db call session)
    (hverified : verified = session.markVerified (mailOf db call session) call.now)
    (h : SettleEffect (db.saveSession verified) verified result) :
    CallEffect db (trimSpace call.sessionId) result.1 result.2 := by
  have hkey : verified.sessionId = trimSpace call.sessionId := by
    rw [hverified]
    exact hpassed.sessionId
  have hother : ∀ id ≠ trimSpace call.sessionId,
      result.1.sessions.get? id = db.sessions.get? id := by
    intro id hid
    rw [← hkey] at hid
    rw [h.other id hid, LdxpDb.get?_saveSession_of_ne hid]
  obtain ⟨row, hrow, horders, hcards, hstatus⟩ := h.row
  rw [hkey] at hrow
  rcases hstatus with ⟨hstatus, hnone⟩ | ⟨hstatus, honce⟩
  · rw [hnone]
    exact .unpaid hpassed.get (status_ne_success hpassed.unpaid) hother hrow hstatus
  · refine .paid hpassed.get (status_ne_success hpassed.unpaid) hother hrow hstatus ?_ honce
    exact (hverified ▸ hpassed.unshared).congr horders hcards

section

variable (hpassed : Passed env db call session) (hpurpose : session.purpose ≠ .valuePackage)
  (hverified : verified = session.markVerified (mailOf db call session) call.now)

include hpassed hpurpose hverified

lemma redeemPhase_credit (hpart : leavesPartialTopUp env db call = false)
    (herror : (redeemPhase env call verified db.ledger).error.isSome = true) :
    (redeemPhase env call verified db.ledger).credit = none := by
  have hsame := redeemPhase_unchanged hpassed hpurpose hverified hpart herror
  unfold redeemPhase at herror hsame ⊢
  by_cases hmail : call.mailMatchRequired = true
  · rw [if_pos hmail] at herror ⊢
    exact (redeemCardPhase_error herror).2
  · rw [if_neg hmail] at hsame ⊢
    exact directTopUp_credit hsame

lemma CallEffect.of_redeem {phase : RedeemPhase}
    (hphase : phase = redeemPhase env call verified db.ledger)
    (hpart : leavesPartialTopUp env db call = false) :
    CallEffect db (trimSpace call.sessionId)
      ((db.withLedger phase.ledger).saveSession (phase.row verified call.now))
      phase.credit.toList := by
  have hkey : (phase.row verified call.now).sessionId = trimSpace call.sessionId := by
    rw [RedeemPhase.row_sessionId, hverified]
    exact hpassed.sessionId
  have hother : ∀ id ≠ trimSpace call.sessionId,
      ((db.withLedger phase.ledger).saveSession (phase.row verified call.now)).sessions.get? id =
        db.sessions.get? id := by
    intro id hid
    rw [← hkey] at hid
    rw [LdxpDb.get?_saveSession_of_ne hid]
    rfl
  cases herror : phase.error with
  | none =>
    have hrow : phase.row verified call.now = verified.markSuccess phase.session call.now := by
      rw [RedeemPhase.row, herror]
    refine .paid hpassed.get (status_ne_success hpassed.unpaid) hother
      (LdxpDb.get?_saveSession hkey) ?_ ?_ phase.credit.length_toList_le
    · rw [hrow]
      rfl
    · rw [hrow]
      exact (hverified ▸ hpassed.unshared).congr rfl rfl
  | some err =>
    have hcredit : phase.credit = none := by
      rw [hphase]
      exact redeemPhase_credit hpassed hpurpose hverified hpart (by simp [← hphase, herror])
    rw [hcredit]
    refine .unpaid hpassed.get (status_ne_success hpassed.unpaid) hother
      (LdxpDb.get?_saveSession hkey) ?_
    rw [(RedeemPhase.row_redeemFailed_iff phase verified call.now).mpr (by simp [herror])]
    exact nofun

end

lemma runLdxpCall_effect {call : LdxpCall} (hcrash : call.crash ≠ some .afterCompletion)
    (hpart : leavesPartialTopUp env db call.verify = false) :
    CallEffect db (trimSpace call.verify.sessionId) (runLdxpCall env db call).1
      (runLdxpCall env db call).2 := by
  cases htx : verifyLdxpSessionTx env db call.verify with
  | error err =>
    rw [runLdxpCall_error htx]
    exact .same
  | ok result =>
    obtain ⟨outcome, db'⟩ := result
    cases verifyLdxpSessionTx_step htx with
    | kept result =>
      rw [runLdxpCall_answer htx]
      exact .same
    | @failed session err hget hunpaid =>
      rw [runLdxpCall_answer htx]
      have hkey : session.sessionId = trimSpace call.verify.sessionId :=
        key_of_get? hget
      refine .unpaid hget (status_ne_success hunpaid) (fun id hid => ?_)
        (LdxpDb.get?_saveSession hkey) nofun
      rw [← hkey] at hid
      exact LdxpDb.get?_saveSession_of_ne hid
    | settling hpassed hpurpose =>
      rw [runLdxpCall_settle htx]
      exact .of_settle hpassed rfl
        (settlement_effect hcrash (LdxpDb.get?_saveSession rfl) nofun)
    | redeemed hpassed hpurpose hverified hphase =>
      rw [runLdxpCall_answer htx]
      exact .of_redeem hpassed hpurpose hverified hphase hpart

end Call

/-! ## Runs -/

/-- The tables, and what calls have credited with the session each was for. -/
structure LdxpBooks where
  db : LdxpDb
  credits : List (String × LdxpCredit)

namespace LdxpBooks

/-- The sessions that have been credited, once for each credit. -/
def credited (books : LdxpBooks) : List String := books.credits.map Prod.fst

/-- One call. -/
def step (env : LdxpEnv) (books : LdxpBooks) (call : LdxpCall) : LdxpBooks :=
  let (db, credits) := runLdxpCall env books.db call
  ⟨db, books.credits ++ credits.map fun credit => (trimSpace call.verify.sessionId, credit)⟩

lemma step_eq (env : LdxpEnv) (books : LdxpBooks) (call : LdxpCall) :
    books.step env call = ⟨(runLdxpCall env books.db call).1,
      books.credits ++ (runLdxpCall env books.db call).2.map fun credit =>
        (trimSpace call.verify.sessionId, credit)⟩ := by
  -- by cases on the result, so that the call itself is not unfolded
  rcases hcall : runLdxpCall env books.db call with ⟨db, credits⟩
  rw [step, hcall]

/-- Each session is credited at most once, and no two credited sessions share a number. -/
structure CreditedOnce (books : LdxpBooks) : Prop where
  once : ∀ id, books.credited.count id ≤ 1
  apart : ∀ id ∈ books.credited, ∀ id' ∈ books.credited, id ≠ id' → ∀ session other,
    books.db.sessions.get? id = some session → books.db.sessions.get? id' = some other →
    ¬session.SharesNumber other

/-- A credited session is marked as successful, and shares no number with another successful
session. -/
structure Inv (books : LdxpBooks) : Prop where
  once : books.credited.Nodup
  marked : ∀ id ∈ books.credited, ∃ row, books.db.sessions.get? id = some row ∧
    row.status = .success ∧ books.db.Unshared id row

variable {env : LdxpEnv} {books : LdxpBooks}

lemma Inv.creditedOnce (h : books.Inv) : books.CreditedOnce where
  once := List.nodup_iff_count_le_one.mp h.once
  apart := by
    intro id hid id' hid' hne session other hget hget'
    obtain ⟨row, hrow, -, hunshared⟩ := h.marked id hid
    obtain ⟨row', hrow', hstatus', -⟩ := h.marked id' hid'
    rw [hget, Option.some.injEq] at hrow
    rw [hget', Option.some.injEq] at hrow'
    subst hrow hrow'
    exact hunshared id' hne.symm other hget' hstatus'

lemma Inv.not_mem (h : books.Inv) (hget : books.db.sessions.get? id = some row)
    (hrow : row.status ≠ .success) : id ∉ books.credited := by
  intro hmem
  obtain ⟨row', hrow', hstatus, -⟩ := h.marked id hmem
  rw [hget, Option.some.injEq] at hrow'
  exact hrow (hrow' ▸ hstatus)

lemma Inv.marked_of_ne (h : books.Inv) {db' : LdxpDb} {id' : String} {row' : LdxpTopupSession}
    (hid' : id' ∈ books.credited) (hne : id' ≠ id)
    (hother : ∀ id' ≠ id, db'.sessions.get? id' = books.db.sessions.get? id')
    (hget' : db'.sessions.get? id = some row')
    (hfresh : row'.status = .success → books.db.Unshared id row') :
    ∃ row, db'.sessions.get? id' = some row ∧ row.status = .success ∧ db'.Unshared id' row := by
  obtain ⟨row, hrow, hstatus, hunshared⟩ := h.marked id' hid'
  refine ⟨row, (hother id' hne).trans hrow, hstatus, ?_⟩
  intro id'' hne'' other hget hsuccess
  by_cases hid : id'' = id
  · -- The session of the call was compared with this one, the other way round.
    subst hid
    rw [hget', Option.some.injEq] at hget
    subst hget
    exact fun hshares => hfresh hsuccess id' hne row hrow hstatus hshares.symm
  · rw [hother id'' hid] at hget
    exact hunshared id'' hne'' other hget hsuccess

lemma Inv.effect (h : books.Inv) {db' : LdxpDb} {credits : List LdxpCredit}
    (heffect : CallEffect books.db id db' credits) :
    Inv ⟨db', books.credits ++ credits.map fun credit => (id, credit)⟩ := by
  cases heffect with
  | same =>
    rw [List.map_nil, List.append_nil]
    exact h
  | unpaid hget hrow hother hget' hrow' =>
    rw [List.map_nil, List.append_nil]
    refine ⟨h.once, fun id' hid' => ?_⟩
    refine h.marked_of_ne hid' ?_ hother hget' (fun hsuccess => absurd hsuccess hrow')
    rintro rfl
    exact h.not_mem hget hrow hid'
  | @paid _ row row' _ hget hrow hother hget' hrow' hunshared honce =>
    have hnew : id ∉ books.credited := h.not_mem hget hrow
    have hcredited : (LdxpBooks.mk db'
        (books.credits ++ credits.map fun credit => (id, credit))).credited =
        books.credited ++ credits.map fun _ => id := by
      simp [credited, Function.comp_def]
    constructor
    · rw [hcredited, List.nodup_append]
      refine ⟨h.once, ?_, ?_⟩
      · rw [List.map_const', List.nodup_replicate]
        exact honce
      · intro id' hid' id'' hid''
        obtain ⟨_, -, rfl⟩ := List.mem_map.mp hid''
        rintro rfl
        exact hnew hid'
    · intro id' hid'
      rw [hcredited, List.mem_append, List.mem_map] at hid'
      rcases hid' with hold | ⟨_, -, rfl⟩
      · refine h.marked_of_ne hold ?_ hother hget' (fun _ => hunshared)
        rintro rfl
        exact hnew hold
      · refine ⟨row', hget', hrow', ?_⟩
        intro id' hne other hget hsuccess
        rw [hother id' hne] at hget
        exact hunshared id' hne other hget hsuccess

end LdxpBooks

/-- The call is not stopped between the completion of a package order and the mark of its session,
and its direct top-up does not fail half way. -/
def Uninterrupted (env : LdxpEnv) (books : LdxpBooks) (call : LdxpCall) : Prop :=
  call.crash ≠ some .afterCompletion ∧ leavesPartialTopUp env books.db call.verify = false

instance (env : LdxpEnv) (books : LdxpBooks) (call : LdxpCall) :
    Decidable (Uninterrupted env books call) := by
  unfold Uninterrupted
  infer_instance

/-- Verifications in any order credit each session at most once and no two sessions with the same
order number or card key, as long as each is uninterrupted. -/
theorem ldxp_credited_once (env : LdxpEnv) (db : LdxpDb) (calls : List LdxpCall)
    (hcalls : Along (LdxpBooks.step env) (Uninterrupted env) ⟨db, []⟩ calls) :
    (exec (LdxpBooks.step env) ⟨db, []⟩ calls).CreditedOnce := by
  apply LdxpBooks.Inv.creditedOnce
  refine exec_induction LdxpBooks.Inv ?_ ?_ hcalls
  · intro books call hinv hcall
    rw [LdxpBooks.step_eq]
    exact hinv.effect (runLdxpCall_effect hcall.1 hcall.2)
  · exact ⟨List.nodup_nil, List.forall_mem_nil _⟩

/-- A paid session for a package order of user `1`. -/
def ldxpPackageSession (sessionId orderNo : String) (orderId : Int) : LdxpTopupSession :=
  { sampleLdxpSession sessionId orderNo with
    money := .finite 99 1
    workerAmount := .finite 99 1
    purpose := .valuePackage
    subscriptionOrderId := orderId
    subscriptionPlanId := 1 }

/-- User `1` has two package orders, and a session for each with the same LDXP order number. -/
def twoSessionsDb : LdxpDb where
  ledger := ⟨{ sampleBank with
    shop :=
      { sampleShop with orders := sampleShop.orders.put { sampleOrder with tradeNo := "T2" } } },
    fun _ => ⟨0, 0⟩⟩
  sessions :=
    (Table.empty.put (ldxpPackageSession "p1" "N1" 1)).put (ldxpPackageSession "p2" "N1" 2)
  events := Table.empty
  orderIdOf tradeNo := if tradeNo = "T1" then 1 else 2

/-- A call that may stop. -/
def sampleLdxpCall (sessionId : String) (crash : Option CrashPoint) : LdxpCall :=
  ⟨sampleVerify sessionId none, ⟨100, ⟨100, 100, 100⟩⟩, crash⟩

/-- The first session is stopped early and tried again; the second comes too late. -/
def verifiedInTurn : List LdxpCall :=
  [sampleLdxpCall "p1" (some .afterLink), sampleLdxpCall "p1" none, sampleLdxpCall "p2" none]

theorem verifiedInTurn_credited :
    Along (LdxpBooks.step sampleLdxpEnv) (Uninterrupted sampleLdxpEnv) ⟨twoSessionsDb, []⟩
        verifiedInTurn ∧
      (exec (LdxpBooks.step sampleLdxpEnv) ⟨twoSessionsDb, []⟩
        verifiedInTurn).credited = ["p1"] ∧
      (exec (LdxpBooks.step sampleLdxpEnv) ⟨twoSessionsDb, []⟩
        verifiedInTurn).CreditedOnce := by
  have hcalls : Along (LdxpBooks.step sampleLdxpEnv) (Uninterrupted sampleLdxpEnv)
      ⟨twoSessionsDb, []⟩ verifiedInTurn := by
    decide +kernel
  exact ⟨hcalls, by decide +kernel,
    ldxp_credited_once sampleLdxpEnv twoSessionsDb verifiedInTurn hcalls⟩

/-- The process stops after the first order is complete. The session is not marked, and the second
one, with the same LDXP order number, is credited as well. -/
theorem stopped_session_credited_twice :
    let books := exec (LdxpBooks.step sampleLdxpEnv) ⟨twoSessionsDb, []⟩
      [sampleLdxpCall "p1" (some .afterCompletion), sampleLdxpCall "p2" none]
    books.credits = [("p1", .package "T1"), ("p2", .package "T2")] ∧
      (books.db.sessions.get? "p1").map LdxpTopupSession.status = some .verified ∧
      (books.db.sessions.get? "p2").map LdxpTopupSession.status = some .success ∧
      (books.db.sessions.get? "p1").map LdxpTopupSession.orderNos =
        some [.of "N1", .blank] ∧
      (books.db.sessions.get? "p2").map LdxpTopupSession.orderNos =
        some [.of "N1", .blank] := by
  decide +kernel

end Yunbay
